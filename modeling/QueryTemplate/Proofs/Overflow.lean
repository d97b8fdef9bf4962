import QueryTemplate.Proofs.Spans

/-! What reading refuses, and the place that it reports.

A text is refused for one reason only, an index beyond the limit, and the leftmost such placeholder
is reported: its line by the newlines before it, its column by the bytes between the last of them
and its marker.
-/

set_option autoImplicit false

namespace QueryTemplate

namespace Position

theorem walkBytes_zero (place : Position) (text : Text) : place.walkBytes 0 text = place := by
  cases text with
  | nil => rfl
  | cons c rest => rw [walkBytes, if_neg (Nat.not_le.mpr c.utf8Size_pos), Nat.add_zero]

theorem walkBytes_append (place : Position) (text rest : Text) (bytes : Nat) :
    place.walkBytes (Text.byteLength text + bytes) (text ++ rest) =
      (place.walk text).walkBytes bytes rest := by
  induction text generalizing place with
  | nil => simp
  | cons c text ih => simp [walkBytes, Nat.add_assoc, ih]

theorem walkBytes_byteLength (place : Position) (text rest : Text) :
    place.walkBytes (Text.byteLength text) (text ++ rest) = place.walk text :=
  (walkBytes_append place text rest 0).trans (walkBytes_zero _ rest)

end Position

/-! ## Pieces -/

namespace Template

/-- Some rule fits every text that is left, and it leaves less of it. -/
theorem Piece.exists_next? {text : Text} (present : text ≠ []) :
    ∃ piece rest, next? text = some (piece, rest) ∧ rest.length < text.length := by
  cases found : next? text with
  | none => exact absurd (eq_nil_of_next? found) present
  | some first => exact ⟨first.1, first.2, rfl, length_lt_of_next? found⟩

theorem extract_digits {text digits : Text} {before after : List Piece}
    (cut : (pieces text).1 = before ++ .placeholder digits :: after) :
    let offset := Text.byteLength (before.flatMap Piece.written) + marker.utf8Size
    text.utf8Encode.extract offset (offset + Text.byteLength digits) = digits.utf8Encode := by
  have whole := written_pieces text
  rw [cut, List.flatMap_append, List.flatMap_cons, Piece.written] at whole
  have shifted := Text.extract_utf8Encode (before.flatMap Piece.written ++ [marker]) digits
    (after.flatMap Piece.written)
  rw [← whole]
  simpa using shifted

end Template

/-! ## The leftmost index beyond the limit -/

namespace Text

theorem digitsValue_zeros_append (zeros : Nat) (digits : Text) :
    digitsValue (List.replicate zeros '0' ++ digits) = digitsValue digits := by
  induction zeros with
  | zero => rfl
  | succ zeros ih => exact ih

theorem Numbered.inside {text before digits after start earlier rest : Text}
    (here : text.Numbered before digits after) (other : text.Numbered start earlier rest)
    (left : start.length < before.length) : ∃ between, before.Numbered start earlier between := by
  have same := other.split.symm.trans here.split
  rcases List.append_eq_append_iff.mp same with ⟨middle, split, tail⟩ | ⟨middle, split, _⟩
  · cases middle with
    | nil => simp [split] at left
    | cons c middle =>
      rw [List.cons_append] at tail
      obtain ⟨rfl, behind⟩ := List.cons.inj tail
      -- Its digits stop before the next marker at the latest.
      have whole := List.takeWhile_append_dropWhile (p := isDigit) (l := middle)
      have all : ∀ c ∈ middle.takeWhile isDigit, isDigit c :=
        List.all_eq_true.mp List.all_takeWhile
      have stops := digitAhead_dropWhile middle
      rw [← whole, List.append_assoc] at behind
      have run := congrArg (List.takeWhile isDigit) behind
      rw [takeWhile_digits other.all other.ends,
        takeWhile_digits all (digitAhead_append_marker stops _)] at run
      refine ⟨middle.dropWhile isDigit, ?_, other.some_digits, other.all, stops⟩
      rw [run, whole, split]
  · rw [split, List.length_append] at left
    omega

/-- The first placeholder beyond a limit is the leftmost. -/
theorem firstBeyond_iff {text before digits after : Text} {limit : Nat} :
    text.FirstBeyond limit before digits after ↔
      text.Numbered before digits after ∧ limit ≤ digitsValue digits ∧
        ∀ start earlier rest, text.Numbered start earlier rest → limit ≤ digitsValue earlier →
          before.length ≤ start.length := by
  constructor
  · intro first
    refine ⟨first.toNumbered, first.beyond, ?_⟩
    intro start earlier rest other beyond
    by_contra left
    obtain ⟨between, inside⟩ := first.toNumbered.inside other (Nat.lt_of_not_le left)
    exact absurd (first.earlier earlier ⟨start, between, inside⟩) (Nat.not_lt.mpr beyond)
  · rintro ⟨here, beyond, leftmost⟩
    refine ⟨here, beyond, ?_⟩
    rintro earlier ⟨start, between, inside⟩
    by_contra notBelow
    have right := leftmost start earlier _ (here.extend inside) (Nat.le_of_not_lt notBelow)
    simp only [inside.split, List.length_append, List.length_cons] at right
    omega

end Text

/-- Every error of reading is about an index, and it names the leftmost one beyond the limit. -/
theorem Template.parse_eq_error_iff {text : Text} {error : ParseError} :
    parse text = .error error ↔
      ∃ before digits after, text.FirstBeyond indexLimit before digits after ∧
        error = .invalidIndex (Position.after before) digits := by
  constructor
  · intro refused
    obtain ⟨before, digits, after, first⟩ := Text.FirstBeyond.exists_of_parse_eq_error refused
    rw [first.parse_eq_error] at refused
    exact ⟨before, digits, after, first, (Except.error.inj refused).symm⟩
  · rintro ⟨before, digits, after, first, rfl⟩
    exact first.parse_eq_error

/-- A text is refused exactly if some marker in it has a run of digits behind it that denotes a
number beyond the limit. The error is about the leftmost such marker: it holds the run as it is
written, and line and column of the marker, in bytes. -/
theorem parse_locates_overflow (text : Text) :
    ((∃ error, Template.parse text = .error error) ↔
      ∃ before digits after, text.Numbered before digits after ∧
        indexLimit ≤ Text.digitsValue digits) ∧
    (∀ zeros digits, Text.digitsValue (List.replicate zeros '0' ++ digits) =
      Text.digitsValue digits) ∧
    (∀ error, Template.parse text = .error error ↔
      ∃ before digits after, text.Numbered before digits after ∧
        indexLimit ≤ Text.digitsValue digits ∧
        (∀ start earlier rest, text.Numbered start earlier rest →
          indexLimit ≤ Text.digitsValue earlier → before.length ≤ start.length) ∧
        error = .invalidIndex
          ⟨1 + before.count '\n', 1 + Text.byteLength before.lastLine⟩ digits) ∧
    (∀ place reason, Template.parse text ≠ .error (.malformed place reason)) ∧
    (∀ rest : Text, rest ≠ [] → ∃ piece left, Template.Piece.next? rest = some (piece, left) ∧
      piece.written ++ left = rest ∧ left.length < rest.length) ∧
    (Template.pieces text).2 = [] ∧
    (Template.pieces text).1.flatMap Template.Piece.written = text ∧
    (∀ before digits after, (Template.pieces text).1 = before ++ .placeholder digits :: after →
      ∃ offset, marker.utf8Size ≤ offset ∧
        text.utf8Encode.extract offset (offset + Text.byteLength digits) = digits.utf8Encode ∧
        offset - marker.utf8Size = Text.byteLength (before.flatMap Template.Piece.written) ∧
        Position.start.walkBytes (offset - marker.utf8Size) text =
          Position.after (before.flatMap Template.Piece.written)) := by
  refine ⟨?_, Text.digitsValue_zeros_append, ?_, ?_, ?_, Template.pieces_rest text,
    Template.written_pieces text, ?_⟩
  · constructor
    · rintro ⟨error, refused⟩
      obtain ⟨before, digits, after, first, _⟩ := Template.parse_eq_error_iff.mp refused
      exact ⟨before, digits, after, first.toNumbered, first.beyond⟩
    · rintro ⟨before, digits, after, here, beyond⟩
      obtain ⟨_, _, _, first⟩ := Text.exists_firstBeyond ⟨digits, ⟨before, after, here⟩, beyond⟩
      exact ⟨_, first.parse_eq_error⟩
  · intro error
    simp only [Template.parse_eq_error_iff, Text.firstBeyond_iff, Position.after_eq, and_assoc]
  · intro place reason refused
    obtain ⟨_, _, _, _, other⟩ := Template.parse_eq_error_iff.mp refused
    cases other
  · intro rest present
    obtain ⟨piece, left, found, shorter⟩ := Template.Piece.exists_next? present
    exact ⟨piece, left, found, Template.Piece.written_next? found, shorter⟩
  · intro before digits after cut
    have whole := Template.written_pieces text
    rw [cut, List.flatMap_append] at whole
    refine ⟨_, Nat.le_add_left _ _, Template.extract_digits cut, Nat.add_sub_cancel _ _, ?_⟩
    rw [Nat.add_sub_cancel, ← whole]
    exact Position.walkBytes_byteLength .start _ _

def boundaryLead : Text := "?18446744073709551615\r\n日?\té".toList

def boundaryDigits : Text := "00018446744073709551616".toList

def boundaryText : Text := boundaryLead ++ marker :: (boundaryDigits ++ "?99999999999999999999".toList)

theorem parse_locates_overflow_boundary :
    boundaryText.Numbered boundaryLead boundaryDigits "?99999999999999999999".toList ∧
    Template.parse boundaryText = .error (.invalidIndex ⟨2, 8⟩ boundaryDigits) ∧
    (∃ piece left, Template.Piece.next? ['?', 'x'] = some (piece, left) ∧
      piece.written ++ left = ['?', 'x'] ∧ left.length < 2) ∧
    ∃ offset, 1 ≤ offset ∧
      boundaryText.utf8Encode.extract offset (offset + 23) = boundaryDigits.utf8Encode ∧
      offset - 1 = 30 ∧ Position.start.walkBytes 30 boundaryText = ⟨2, 8⟩ := by
  have cutLead : Template.pieces boundaryLead =
      ([.placeholder "18446744073709551615".toList, .literal "\r\n日".toList, .literal ['?'],
        .literal "\té".toList], []) := by
    decide +kernel
  have readLead : Template.parse boundaryLead =
      .ok ⟨[.placeholder 18446744073709551615, .literal "\r\n日?\té".toList]⟩ := by
    rw [Template.parse, cutLead]
    rfl
  have here : boundaryText.Numbered boundaryLead boundaryDigits "?99999999999999999999".toList :=
    ⟨rfl, by decide, List.all_eq_true.mp rfl, rfl⟩
  have first : boundaryText.FirstBeyond indexLimit boundaryLead boundaryDigits
      "?99999999999999999999".toList :=
    ⟨here, by decide, Template.within_of_parse readLead⟩
  have cut : (Template.pieces boundaryText).1 =
      [.placeholder "18446744073709551615".toList, .literal "\r\n日".toList, .literal ['?'],
        .literal "\té".toList] ++ .placeholder boundaryDigits ::
          [.placeholder "99999999999999999999".toList] := by
    decide +kernel
  have place : Position.after boundaryLead = ⟨2, 8⟩ := by decide
  have digitBytes : Text.byteLength boundaryDigits = 23 := by decide
  obtain ⟨_, _, located, _, progress, _, _, found⟩ := parse_locates_overflow boundaryText
  refine ⟨here, ?_, progress _ (by simp), ?_⟩
  · rw [← place, Position.after_eq]
    have leftmost := (Text.firstBeyond_iff.mp first).2.2
    exact (located _).mpr ⟨_, _, _, here, first.beyond, leftmost, rfl⟩
  · obtain ⟨offset, later, bytes, marked, placed⟩ := found _ _ _ cut
    rw [digitBytes] at bytes
    rw [marked] at placed
    exact ⟨offset, later, bytes, marked, placed.trans place⟩

end QueryTemplate
