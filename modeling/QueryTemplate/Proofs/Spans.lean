import Mathlib.Data.List.DropRight
import Mathlib.Data.List.Induction
import QueryTemplate.Command.Diagnostic
import QueryTemplate.Proofs.IndexChecks

/-! Where a diagnostic points.

A line and a column lead back to the offset of the place they were made of, in any text that begins
as that one does. So the span of a malformed index covers its marker and its digits.
-/

set_option autoImplicit false

namespace QueryTemplate

/-! ## Positions and offsets -/

namespace Text

def lastLine (text : Text) : Text := text.rtakeWhile (· ≠ '\n')

theorem lastLine_concat (text : Text) (c : Char) :
    lastLine (text ++ [c]) = if c = '\n' then [] else lastLine text ++ [c] := by
  by_cases newline : c = '\n' <;> simp [lastLine, newline]

end Text

namespace Position

theorem after_concat (text : Text) (c : Char) : after (text ++ [c]) = (after text).next c := by
  rw [after_append]
  rfl

/-- The line counts the newlines before a place, the column the bytes behind the last of them. -/
theorem after_eq (text : Text) :
    after text = ⟨1 + text.count '\n', 1 + Text.byteLength text.lastLine⟩ := by
  induction text using List.reverseRecOn with
  | nil => rfl
  | append_singleton text c ih =>
    rw [after_concat, ih, next, Text.lastLine_concat, List.count_append]
    by_cases newline : c = '\n' <;> simp [newline, Nat.add_assoc]

theorem line_after (text : Text) : (after text).line = text.count '\n' + 1 := by
  rw [after_eq, Nat.add_comm]

theorem column_after_pos (text : Text) : 1 ≤ (after text).column := by
  rw [after_eq]
  exact Nat.le_add_right 1 _

/-- The line behind the last newline of a text starts right behind the text. -/
theorem lineStart_newline (text rest : Text) :
    lineStart (text.count '\n' + 1) (text ++ '\n' :: rest) = Text.byteLength text + 1 := by
  induction text with
  | nil =>
    have one : Char.utf8Size '\n' = 1 := rfl
    simp [lineStart, one]
  | cons c text ih =>
    by_cases newline : c = '\n'
    · simp [lineStart, newline, ih, Nat.add_assoc]
    · simp [lineStart, newline, ih, Nat.add_assoc]

/-- The offset of a place is found again from its line and its column. -/
theorem lineStart_add_column (text rest : Text) :
    lineStart ((after text).line - 1) (text ++ rest) + ((after text).column - 1) =
      Text.byteLength text := by
  -- From the right, since the last character decides line and column.
  induction text using List.reverseRecOn generalizing rest with
  | nil => simp [after, start, lineStart]
  | append_singleton text c ih =>
    rw [after_concat, next, Text.byteLength_append, List.append_assoc, List.singleton_append]
    have column := column_after_pos text
    split
    next newline =>
      subst newline
      simp only [line_after, Nat.add_sub_cancel]
      exact lineStart_newline text rest
    next =>
      have same := ih (c :: rest)
      simp only [Text.byteLength_cons, Text.byteLength_nil]
      omega

end Position

theorem Text.byteLength_digits {digits : Text} (all : ∀ c ∈ digits, isDigit c) :
    byteLength digits = digits.length := by
  induction digits with
  | nil => rfl
  | cons c rest ih =>
    have digit := all c List.mem_cons_self
    have one : c.utf8Size = 1 := by
      simp only [isDigit, Bool.and_eq_true, decide_eq_true_eq] at digit
      exact Char.utf8Size_eq_one_iff.mpr (UInt32.le_trans digit.2 (by decide))
    rw [byteLength_cons, one, ih fun d member => all d (List.mem_cons_of_mem c member),
      List.length_cons, Nat.add_comm]

/-- The bytes of a text between two others start and end where theirs leave off. -/
theorem Text.extract_utf8Encode (before text after : Text) :
    (before ++ text ++ after).utf8Encode.extract (byteLength before)
        (byteLength before + byteLength text) =
      text.utf8Encode := by
  rw [byteLength_eq_size, byteLength_eq_size, List.utf8Encode_append, List.utf8Encode_append,
    ← ByteArray.size_append, ByteArray.extract_append_size_left]
  exact ByteArray.extract_append_eq_right rfl ByteArray.size_append

/-! ## The first placeholder at fault -/

namespace Text.FirstBeyond

variable {text before digits after : Text}

theorem parse_eq_error (first : text.FirstBeyond indexLimit before digits after) :
    Template.parse text = .error (.invalidIndex (Position.after before) digits) := by
  have fits := Template.fits_iff_within.mpr first.earlier
  rw [Template.parse_of_overflow (Template.tokens_of_numbered first.toNumbered) fits first.beyond,
    Template.written_of_cuts (Template.cuts_tokens before)]

theorem exists_of_parse_eq_error {error : ParseError} (refused : Template.parse text = .error error) :
    ∃ before digits after, text.FirstBeyond indexLimit before digits after := by
  have outside : ¬ text.Within indexLimit := by
    rw [← Template.fits_iff_within]
    exact Template.parse_fails_iff.mp ⟨error, refused⟩
  obtain ⟨digits, beyond⟩ := not_forall.mp outside
  obtain ⟨refers, beyond⟩ := Classical.not_imp.mp beyond
  exact exists_firstBeyond ⟨digits, refers, Nat.le_of_not_lt beyond⟩

end Text.FirstBeyond

namespace Command.Diagnostic

/-- A place of a text with some more bytes behind it is not cut. -/
theorem placed_of_append (before token after : Text) (reason : String) (help : Option String) :
    placed (before ++ token ++ after) (Position.after before).line (Position.after before).column
        (Text.byteLength token) reason help =
      { message := s!"syntax error: {reason}"
        help
        offset := Text.byteLength before
        length := Text.byteLength token } := by
  have found := Position.lineStart_add_column before (token ++ after)
  rw [← List.append_assoc] at found
  simp only [placed, found, Text.byteLength_append]
  congr 1 <;> omega

theorem ofParseError_of_append (before digits after : Text) :
    ofParseError (before ++ (marker :: digits) ++ after)
        (.invalidIndex (Position.after before) digits) =
      { message := s!"syntax error: invalid placeholder index '?{String.ofList digits}'"
        help := some "placeholder indices must fit in a machine-sized integer"
        offset := Text.byteLength before
        length := Text.byteLength (marker :: digits) } := by
  have width : Text.byteLength digits + 1 = Text.byteLength (marker :: digits) := Nat.add_comm _ _
  rw [ofParseError, width]
  exact placed_of_append before (marker :: digits) after _ _

end Command.Diagnostic

/-- A template that is refused has a first placeholder beyond the limit of indices; the error holds
its place and its digits, and the span of the diagnostic starts at the byte offset of its marker and
ends behind its digits. -/
theorem diagnostic_covers_placeholder {text : Text} {error : ParseError}
    (refused : Template.parse text = .error error) :
    (∃ before digits after, text.FirstBeyond indexLimit before digits after) ∧
    (∀ before digits after, text.FirstBeyond indexLimit before digits after →
      error = .invalidIndex (Position.after before) digits ∧
      (Command.Diagnostic.ofParseError text error).offset = before.utf8Encode.size ∧
      (Command.Diagnostic.ofParseError text error).length = 1 + digits.length ∧
      text.utf8Encode.extract (Command.Diagnostic.ofParseError text error).offset
          ((Command.Diagnostic.ofParseError text error).offset +
            (Command.Diagnostic.ofParseError text error).length) =
        (marker :: digits).utf8Encode) ∧
    (∀ before after, text = before ++ after →
      Position.lineStart ((Position.after before).line - 1) text +
        ((Position.after before).column - 1) = before.utf8Encode.size) := by
  refine ⟨Text.FirstBeyond.exists_of_parse_eq_error refused, ?_, ?_⟩
  · intro before digits after first
    obtain rfl : .invalidIndex (Position.after before) digits = error := by
      rw [first.parse_eq_error] at refused
      exact Except.error.inj refused
    have split : text = before ++ (marker :: digits) ++ after := by
      rw [first.split]
      simp
    have whole : Text.byteLength (marker :: digits) = 1 + digits.length := by
      rw [Text.byteLength_cons, Text.byteLength_digits first.all]
      rfl
    rw [split, Command.Diagnostic.ofParseError_of_append]
    exact ⟨rfl, Text.byteLength_eq_size before, whole,
      Text.extract_utf8Encode before (marker :: digits) after⟩
  · rintro before after rfl
    rw [Position.lineStart_add_column, Text.byteLength_eq_size]

def winding : Text := "é\r\n😀\n\nü?1 ".toList

def windingDigits : Text := "018446744073709551616".toList

def windingText : Text := winding ++ marker :: (windingDigits ++ "x?99999999999999999999".toList)

theorem diagnostic_covers_placeholder_winding :
    Template.parse windingText = .error (.invalidIndex ⟨4, 6⟩ windingDigits) ∧
    windingText.FirstBeyond indexLimit winding windingDigits "x?99999999999999999999".toList ∧
    (Command.Diagnostic.ofParseError windingText (.invalidIndex ⟨4, 6⟩ windingDigits)).offset = 15 ∧
    (Command.Diagnostic.ofParseError windingText (.invalidIndex ⟨4, 6⟩ windingDigits)).length = 22 ∧
    windingText.utf8Encode.extract 15 37 = (marker :: windingDigits).utf8Encode := by
  have refused : Template.parse windingText = .error (.invalidIndex ⟨4, 6⟩ windingDigits) := by
    have cut : Template.pieces windingText =
        ([.literal "é\r\n😀\n\nü".toList, .placeholder ['1'], .literal [' '],
          .placeholder windingDigits, .literal ['x'],
          .placeholder "99999999999999999999".toList], []) := by
      decide +kernel
    rw [Template.parse, cut]
    rfl
  have earlier : winding.Within indexLimit := by
    have cut : Template.pieces winding =
        ([.literal "é\r\n😀\n\nü".toList, .placeholder ['1'], .literal [' ']], []) := by
      decide +kernel
    have read : Template.parse winding = .ok ⟨[.literal "é\r\n😀\n\nü".toList, .placeholder 1,
        .literal [' ']]⟩ := by
      rw [Template.parse, cut]
      rfl
    exact Template.within_of_parse read
  have first : windingText.FirstBeyond indexLimit winding windingDigits
      "x?99999999999999999999".toList :=
    { split := rfl
      some_digits := by decide
      all := List.all_eq_true.mp rfl
      ends := rfl
      beyond := by decide
      earlier }
  obtain ⟨_, points, _⟩ := diagnostic_covers_placeholder refused
  obtain ⟨_, offset, length, covered⟩ := points _ _ _ first
  have bytes : winding.utf8Encode.size = 15 := by
    rw [← Text.byteLength_eq_size]
    decide
  rw [bytes] at offset
  rw [offset, length] at covered
  exact ⟨refused, first, offset, length, covered⟩

end QueryTemplate
