import QueryTemplate.Proofs.Canonical
import QueryTemplate.Proofs.Overflow

/-! Texts read in two parts.

A text may be cut anywhere but inside a placeholder. The segments of the parts then follow each
other, two literals that meet at the cut are one, and an error of the second part is found further
on.
-/

set_option autoImplicit false

namespace QueryTemplate

namespace Text

/-- The text ends in a marker, or in a marker and digits. -/
def EndsOpen (text : Text) : Prop :=
  ∃ front digits, text = front ++ marker :: digits ∧ ∀ c ∈ digits, isDigit c

/-- Between the two texts is no place inside a placeholder. -/
def Cut (first rest : Text) : Prop := rest.digitAhead = false ∨ ¬ first.EndsOpen

namespace Cut

variable {first rest more digits : Text}

theorem of_append (front : Text) (cut : Cut (front ++ first) rest) : Cut first rest := by
  rcases cut with plain | closed
  · exact .inl plain
  · refine .inr ?_
    rintro ⟨start, digits, rfl, all⟩
    exact closed ⟨front ++ start, digits, by simp, all⟩

theorem take (cut : Cut first (rest ++ more)) : Cut first rest := by
  rcases cut with plain | closed
  · by_cases empty : rest = []
    · subst empty
      exact .inl rfl
    · rw [digitAhead_append empty] at plain
      exact .inl plain
  · exact .inr closed

/-- A placeholder of the first text keeps its digits, even if it comes last. -/
theorem digitAhead_eq_false (cut : Cut (marker :: (digits ++ first)) rest)
    (all : ∀ c ∈ digits, isDigit c) (ends : first.digitAhead = false) :
    (first ++ rest).digitAhead = false := by
  by_cases last : first = []
  · subst last
    rcases cut with plain | closed
    · exact plain
    · exact absurd ⟨[], digits, by simp, all⟩ closed
  · rw [digitAhead_append last, ends]

end Cut

end Text

namespace Segment

def follow : List Segment → List Segment → List Segment
  | [], rest => rest
  | [literal text], rest => consLiteral text rest
  | segment :: segments, rest => segment :: follow segments rest

theorem follow_placeholder (index : Nat) (segments rest : List Segment) :
    follow (placeholder index :: segments) rest = placeholder index :: follow segments rest := by
  rw [follow]
  nofun

theorem follow_consLiteral (text : Text) (segments rest : List Segment) :
    follow (consLiteral text segments) rest = consLiteral text (follow segments rest) := by
  cases segments with
  | nil => rfl
  | cons segment segments =>
    cases segment with
    | placeholder index => simp [consLiteral, follow]
    | literal next =>
      cases segments with
      | nil => exact (consLiteral_consLiteral text next rest).symm
      | cons later segments => simp [consLiteral, follow]

theorem placeholder_mem_follow_iff {index : Nat} {segments rest : List Segment} :
    placeholder index ∈ follow segments rest ↔
      placeholder index ∈ segments ∨ placeholder index ∈ rest := by
  fun_induction follow segments rest with
  | case1 => simp
  | case2 text rest => rcases rest with _ | ⟨_ | _, rest⟩ <;> simp [consLiteral]
  | case3 segment segments rest _ ih => rw [List.mem_cons, ih, List.mem_cons, or_assoc]

end Segment

namespace Template

variable {first rest : Text}

/-! ## What is read -/

theorem segments_of_cuts {pieces : List Piece} (cuts : Cuts first pieces)
    (cut : Text.Cut first rest) :
    (tokens (first ++ rest)).map Piece.segment =
      Segment.follow (pieces.map Piece.segment) ((tokens rest).map Piece.segment) := by
  -- Over the tokens of the first part: each of them ends where it did, so that only the last one can
  -- meet the second part.
  induction cuts with
  | nil => rfl
  | @placeholder digits between pieces some_digits all ends _ ih =>
    have ahead := cut.digitAhead_eq_false all ends
    have later := ih (cut.of_append (marker :: digits))
    rw [List.cons_append, List.append_assoc, tokens_placeholder some_digits all ahead,
      List.map_cons, later, List.map_cons, Piece.segment, Segment.follow_placeholder]
  | @literal c between pieces plain _ ih =>
    have ahead : c = marker → (between ++ rest).digitAhead = false := by
      rintro rfl
      have whole : Text.Cut (marker :: ([] ++ between)) rest := cut
      exact whole.digitAhead_eq_false (by simp) (plain rfl)
    have later := ih (cut.of_append [c])
    rw [List.cons_append, tokens_literal ahead, map_segment_consLiteral, map_segment_consLiteral,
      later, Segment.follow_consLiteral]

theorem segments_append (cut : Text.Cut first rest) :
    (tokens (first ++ rest)).map Piece.segment =
      Segment.follow ((tokens first).map Piece.segment) ((tokens rest).map Piece.segment) :=
  segments_of_cuts (cuts_tokens first) cut

theorem within_append_iff {limit : Nat} (cut : Text.Cut first rest) :
    (first ++ rest).Within limit ↔ first.Within limit ∧ rest.Within limit := by
  simp only [within_iff_segments, segments_append cut, Segment.placeholder_mem_follow_iff,
    or_imp, forall_and]

/-- The whole is read if its parts are, and what they give stands one behind the other. -/
theorem parse_append {head tail : Template} (cut : Text.Cut first rest)
    (readFirst : parse first = .ok head) (readRest : parse rest = .ok tail) :
    parse (first ++ rest) = .ok ⟨Segment.follow head.segments tail.segments⟩ := by
  have firstWithin := within_of_parse readFirst
  have restWithin := within_of_parse readRest
  rw [parse_of_within firstWithin] at readFirst
  rw [parse_of_within restWithin] at readRest
  cases readFirst
  cases readRest
  rw [parse_of_within ((within_append_iff cut).mpr ⟨firstWithin, restWithin⟩), segments_append cut]

end Template

/-! ## What is refused -/

/-- The place behind a text and another, by the place behind the second. -/
theorem Position.after_append_eq (first rest : Text) :
    after (first ++ rest) =
      ⟨(after rest).line + first.count '\n',
        (after rest).column +
          if (after rest).line = 1 then Text.byteLength first.lastLine else 0⟩ := by
  induction rest using List.reverseRecOn with
  | nil => rw [List.append_nil, after_eq first, after, walk_nil, start, if_pos rfl]
  | append_singleton rest c ih =>
    rw [← List.append_assoc, after_concat, after_concat, ih, next, next]
    by_cases newline : c = '\n'
    · have below : (after rest).line ≠ 0 := by
        rw [line_after]
        omega
      simp [newline, below, Nat.add_right_comm]
    · simp [newline, Nat.add_right_comm]

namespace Text.FirstBeyond

variable {first rest before digits after : Text} {limit : Nat}

theorem append (fault : first.FirstBeyond limit before digits after) (cut : Cut first rest) :
    (first ++ rest).FirstBeyond limit before digits (after ++ rest) := by
  have behind : Cut (marker :: (digits ++ after)) rest := by
    rw [fault.split] at cut
    exact cut.of_append before
  refine ⟨⟨?_, fault.some_digits, fault.all, ?_⟩, fault.beyond, fault.earlier⟩
  · rw [fault.split]
    simp
  · exact behind.digitAhead_eq_false fault.all fault.ends

theorem prepend (fault : rest.FirstBeyond limit before digits after) (cut : Cut first rest)
    (within : first.Within limit) :
    (first ++ rest).FirstBeyond limit (first ++ before) digits after := by
  have front : Cut first before := by
    rw [fault.split] at cut
    exact cut.take
  refine ⟨⟨?_, fault.some_digits, fault.all, fault.ends⟩, fault.beyond, ?_⟩
  · rw [fault.split]
    simp
  · exact (Template.within_append_iff front).mpr ⟨within, fault.earlier⟩

end Text.FirstBeyond

namespace Template

variable {first rest : Text}

theorem parse_append_of_error {error : ParseError} (cut : Text.Cut first rest)
    (refused : parse first = .error error) : parse (first ++ rest) = .error error := by
  obtain ⟨before, digits, after, fault, rfl⟩ := parse_eq_error_iff.mp refused
  exact (fault.append cut).parse_eq_error

theorem parse_append_of_error_right {head : Template} {error : ParseError}
    (cut : Text.Cut first rest) (read : parse first = .ok head)
    (refused : parse rest = .error error) :
    ∃ place digits, error = .invalidIndex place digits ∧
      parse (first ++ rest) = .error (.invalidIndex
        ⟨place.line + first.count '\n',
          place.column + if place.line = 1 then Text.byteLength first.lastLine else 0⟩ digits) := by
  obtain ⟨before, digits, after, fault, rfl⟩ := parse_eq_error_iff.mp refused
  refine ⟨_, digits, rfl, ?_⟩
  rw [← Position.after_append_eq]
  exact (fault.prepend cut (within_of_parse read)).parse_eq_error

end Template

/-! ## What is filled -/

namespace Segment

variable {argument? : Nat → Option Argument} {count : Nat}

theorem fill_consLiteral (buffer text : Text) (segments : List Segment) :
    fill argument? count buffer (consLiteral text segments) =
      fill argument? count (buffer ++ text) segments := by
  rcases segments with _ | ⟨_ | _, segments⟩ <;> simp [consLiteral, fill]

theorem fill_follow (buffer : Text) (segments rest : List Segment) :
    fill argument? count buffer (follow segments rest) =
      (fill argument? count buffer segments).bind (fill argument? count · rest) := by
  fun_induction follow segments rest generalizing buffer with
  | case1 => rfl
  | case2 text rest => exact fill_consLiteral buffer text rest
  | case3 segment segments rest _ ih =>
    cases segment with
    | literal text => exact ih (buffer ++ text)
    | placeholder index =>
      cases found : fragmentAt argument? count index with
      | ok fragment => rw [fill_placeholder_ok found, fill_placeholder_ok found, ih]
      | error error =>
        rw [fill_placeholder_error found, fill_placeholder_error found]
        rfl

theorem fill_buffer (buffer : Text) (segments : List Segment) :
    fill argument? count buffer segments =
      (fill argument? count [] segments).map (buffer ++ ·) := by
  rcases filled_or_failsFirst argument? count segments with ⟨fragment, filled⟩ | ⟨error, fails⟩
  · rw [fill_of_filled filled, fill_of_filled filled]
    rfl
  · rw [fill_of_failsFirst fails, fill_of_failsFirst fails]
    rfl

end Segment

theorem bindText_append {first rest : Text} {head tail : Template} (cut : Text.Cut first rest)
    (readFirst : Template.parse first = .ok head) (readRest : Template.parse rest = .ok tail)
    (arguments : List Argument) :
    bindText (first ++ rest) arguments =
      (bindText first arguments).bind fun query =>
        (bindText rest arguments).map (query ++ ·) := by
  simp only [bindText, Template.parse_append cut readFirst readRest, readFirst, readRest,
    Template.bind, Segment.fill_follow]
  cases Segment.fill (arguments[·]?) arguments.length [] head.segments with
  | error error => rfl
  | ok query => exact Segment.fill_buffer query tail.segments

/-- Reading and filling go part by part, wherever no placeholder is cut. The whole is read exactly
if both parts are; an error of the first part is that of the whole, and one of the second part alone
is moved by the lines and bytes before it. The query of the whole is the queries of the parts in a
row, or the first error among them. -/
theorem reading_goes_part_by_part (first rest : Text) (cut : Text.Cut first rest) :
    ((∃ template, Template.parse (first ++ rest) = .ok template) ↔
      (∃ head, Template.parse first = .ok head) ∧ ∃ tail, Template.parse rest = .ok tail) ∧
    (∀ head tail, Template.parse first = .ok head → Template.parse rest = .ok tail →
      Template.parse (first ++ rest) = .ok ⟨Segment.follow head.segments tail.segments⟩) ∧
    (∀ error, Template.parse first = .error error →
      Template.parse (first ++ rest) = .error error) ∧
    (∀ head error, Template.parse first = .ok head → Template.parse rest = .error error →
      ∃ place digits, error = .invalidIndex place digits ∧
        Template.parse (first ++ rest) = .error (.invalidIndex
          ⟨place.line + first.count '\n',
            place.column + if place.line = 1 then Text.byteLength first.lastLine else 0⟩
          digits)) ∧
    (∀ arguments head tail, Template.parse first = .ok head → Template.parse rest = .ok tail →
      bindText (first ++ rest) arguments =
        match bindText first arguments, bindText rest arguments with
        | .error error, _ => .error error
        | .ok _, .error error => .error error
        | .ok query, .ok more => .ok (query ++ more)) := by
  refine ⟨?_, fun _ _ => Template.parse_append cut, fun _ => Template.parse_append_of_error cut,
    fun _ _ => Template.parse_append_of_error_right cut, ?_⟩
  · simp only [Template.exists_parse_iff_within, Template.within_append_iff cut]
  · intro arguments head tail readFirst readRest
    rw [bindText_append cut readFirst readRest]
    cases bindText first arguments <;> cases bindText rest arguments <;> rfl

def partedText : Text := "x?\n日 ?01?".toList

def partedRest : Text := "?é?1".toList

def partedFault : Text := "? ?18446744073709551616".toList

theorem reading_goes_part_by_part_met :
    partedText.Cut partedRest ∧ partedText.Cut partedFault ∧
    Template.parse (partedText ++ partedRest) =
      .ok ⟨[.literal "x?\n日 ".toList, .placeholder 1, .literal "??é".toList, .placeholder 1]⟩ ∧
    bindText (partedText ++ partedRest) [.ofScalars [], .ofString ['"']] =
      .ok "x?\n日 \\\"??é\\\"".toList ∧
    Template.parse (partedText ++ partedFault) =
      .error (.invalidIndex ⟨2, 11⟩ "18446744073709551616".toList) := by
  have readText : Template.parse partedText =
      .ok ⟨[.literal "x?\n日 ".toList, .placeholder 1, .literal ['?']]⟩ := by
    have pieces : Template.pieces partedText =
        ([.literal ['x'], .literal ['?'], .literal "\n日 ".toList, .placeholder ['0', '1'],
          .literal ['?']], []) := by
      decide +kernel
    rw [Template.parse, pieces]
    rfl
  have readRest : Template.parse partedRest = .ok ⟨[.literal "?é".toList, .placeholder 1]⟩ := by
    have pieces : Template.pieces partedRest =
        ([.literal ['?'], .literal ['é'], .placeholder ['1']], []) := by
      decide +kernel
    rw [Template.parse, pieces]
    rfl
  have readFault : Template.parse partedFault =
      .error (.invalidIndex ⟨1, 3⟩ "18446744073709551616".toList) := by
    have pieces : Template.pieces partedFault =
        ([.literal ['?'], .literal [' '], .placeholder "18446744073709551616".toList], []) := by
      decide +kernel
    rw [Template.parse, pieces]
    rfl
  have cutRest : partedText.Cut partedRest := .inl rfl
  have cutFault : partedText.Cut partedFault := .inl rfl
  obtain ⟨_, read, _, _, filled⟩ := reading_goes_part_by_part partedText partedRest cutRest
  obtain ⟨_, _, _, shifted, _⟩ := reading_goes_part_by_part partedText partedFault cutFault
  refine ⟨cutRest, cutFault, read _ _ readText readRest, ?_, ?_⟩
  · rw [filled _ _ _ readText readRest, bindText, bindText, readText, readRest]
    rfl
  · obtain ⟨place, digits, same, refused⟩ := shifted _ _ readText readFault
    cases same
    exact refused

end QueryTemplate
