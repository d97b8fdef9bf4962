import QueryTemplate.Proofs.StoppingPlaces

/-! Spans that stay inside their text.

The text that a diagnostic shows need not be the one in which its error was found. The span is
worked out in machine words, by sums and differences that never leave their range for texts of
moderate size, and cut to the text.
-/

set_option autoImplicit false

namespace QueryTemplate

/-! ## Lines -/

/-- Every line of a text starts behind what stands before it. -/
theorem Text.exists_line {text : Text} {n : Nat} (has : n ≤ text.count '\n') :
    ∃ before rest, text = before ++ rest ∧ before.lastLine = [] ∧ before.count '\n' = n := by
  -- From the right: the last line of a text ends with the text.
  induction text using List.reverseRecOn with
  | nil => exact ⟨[], [], rfl, rfl, (Nat.le_zero.mp has).symm⟩
  | append_singleton text c ih =>
    rcases Nat.lt_or_ge (text.count '\n') n with later | earlier
    · rw [List.count_append, List.count_singleton] at has
      have newline : c = '\n' := by
        by_contra other
        simp [other] at has
        omega
      subst newline
      refine ⟨text ++ ['\n'], [], (List.append_nil _).symm, by simp [lastLine_concat], ?_⟩
      rw [List.count_append, List.count_singleton]
      simp at has ⊢
      omega
    · obtain ⟨before, rest, rfl, starts, count⟩ := ih earlier
      exact ⟨before, rest ++ [c], List.append_assoc .., starts, count⟩

namespace Position

theorem lineStart_of_lastLine {before : Text} (empty : before.lastLine = []) (rest : Text) :
    lineStart (before.count '\n') (before ++ rest) = Text.byteLength before := by
  have found := lineStart_add_column before rest
  rw [after_eq, empty] at found
  simpa using found

theorem lineStart_add_lastLine (before rest : Text) :
    lineStart (before.count '\n') (before ++ rest) + Text.byteLength before.lastLine =
      Text.byteLength before := by
  have found := lineStart_add_column before rest
  rw [after_eq] at found
  simpa using found

theorem lineStart_of_count_lt {text : Text} {newlines : Nat} (fewer : text.count '\n' < newlines) :
    lineStart newlines text = Text.byteLength text := by
  induction text generalizing newlines with
  | nil => cases newlines <;> rfl
  | cons c rest ih =>
    obtain ⟨newlines, rfl⟩ := Nat.exists_eq_add_one_of_ne_zero (Nat.ne_zero_of_lt fewer)
    rw [lineStart, Text.byteLength_cons]
    by_cases newline : c = '\n'
    · subst newline
      rw [List.count_cons_self] at fewer
      rw [if_pos rfl, ih (Nat.lt_of_succ_lt_succ fewer)]
    · rw [List.count_cons_of_ne newline] at fewer
      rw [if_neg newline, ih fewer]

/-- A character never leads back, and the column grows by its bytes at most. -/
theorem next_bounds {place : Position} (counted : 1 ≤ place.column) (c : Char) :
    place.line ≤ (place.next c).line ∧ 1 ≤ (place.next c).column ∧
      (place.next c).column ≤ place.column + c.utf8Size := by
  unfold next
  split
  · dsimp only
    omega
  · dsimp only
    omega

theorem walkBytes_bounds {place : Position} (counted : 1 ≤ place.column) (bytes : Nat) (text : Text) :
    place.line ≤ (place.walkBytes bytes text).line ∧
      (place.walkBytes bytes text).column ≤ place.column + Text.byteLength text := by
  induction text generalizing place bytes with
  | nil => exact ⟨Nat.le_refl _, Nat.le_refl _⟩
  | cons c rest ih =>
    rw [walkBytes, Text.byteLength_cons]
    split
    · obtain ⟨line, first, column⟩ := next_bounds counted c
      obtain ⟨lines, columns⟩ := ih first (bytes - c.utf8Size)
      omega
    · dsimp only
      omega

end Position

/-! ## Machine words -/

namespace Word

/-- The numbers below are those that a machine word holds. -/
def limit : Nat := Nat.pow 2 64

def sum? (a b : Nat) : Option Nat := if a + b < limit then some (a + b) else none

def difference? (a b : Nat) : Option Nat := if b ≤ a then some (a - b) else none

variable {a b : Nat}

theorem sum?_of_lt (small : a + b < limit) : sum? a b = some (a + b) := if_pos small

theorem difference?_of_le (ordered : b ≤ a) : difference? a b = some (a - b) := if_pos ordered

end Word

def Text.newlineOffsets : Text → List Nat
  | [] => []
  | c :: rest => (if c = '\n' then [0] else []) ++ (newlineOffsets rest).map (c.utf8Size + ·)

theorem Position.lineStart_succ (newlines : Nat) (text : Text) :
    lineStart (newlines + 1) text =
      match text.newlineOffsets[newlines]? with
      | none => Text.byteLength text
      | some offset => offset + 1 := by
  induction text generalizing newlines with
  | nil => rfl
  | cons c rest ih =>
    rw [lineStart, Text.newlineOffsets, Text.byteLength_cons]
    by_cases newline : c = '\n'
    · subst newline
      have one : Char.utf8Size '\n' = 1 := rfl
      cases newlines with
      | zero => simp [lineStart, one]
      | succ newlines =>
        simp only [if_true, ih, List.singleton_append, List.getElem?_cons_succ, List.getElem?_map]
        cases (Text.newlineOffsets rest)[newlines]? <;> simp [Nat.add_assoc]
    · simp only [if_neg newline, ih, List.nil_append, List.getElem?_map]
      cases (Text.newlineOffsets rest)[newlines]? <;> simp [Nat.add_assoc]

namespace Command.Diagnostic

/-- The offset of the start of a line in machine words. The end of the text stands for a line that it
does not have. -/
def wordLineStart (content : Text) (line : Nat) : Option Nat :=
  match Word.difference? line 2 with
  | none => some 0
  | some newlines =>
    match content.newlineOffsets[newlines]? with
    | none => some (Text.byteLength content)
    | some offset => Word.sum? offset 1

/-- Offset and length of a span in machine words; nothing if a step leaves their range. -/
def wordSpan (content : Text) (line column length : Nat) : Option (Nat × Nat) := do
  let start ← wordLineStart content line
  let sum ← Word.sum? start (column - 1)
  let offset := min sum (Text.byteLength content)
  let left ← Word.difference? (Text.byteLength content) offset
  some (offset, min length left)

def wordSpanOfParseError (content : Text) : ParseError → Option (Nat × Nat)
  | .invalidIndex place digits => do
    wordSpan content place.line place.column (← Word.sum? (Text.byteLength digits) 1)
  | .malformed place _ => wordSpan content place.line place.column 1

def wordSpanOfJsonError (content : Text) (error : Json.Error) : Option (Nat × Nat) :=
  wordSpan content (max error.line 1) (max error.column 1) 1

theorem wordLineStart_eq {content : Text} (brief : Text.byteLength content < Word.limit) (line : Nat) :
    wordLineStart content line = some (Position.lineStart (line - 1) content) := by
  unfold wordLineStart
  match line with
  | 0 | 1 => simp [Word.difference?, Position.lineStart]
  | newlines + 2 =>
    have bound := Position.lineStart_le_byteLength (newlines + 1) content
    have before : newlines + 2 - 1 = newlines + 1 := rfl
    rw [before]
    rw [Position.lineStart_succ] at bound ⊢
    rw [Word.difference?_of_le (Nat.le_add_left 2 newlines), Nat.add_sub_cancel]
    dsimp only
    cases found : content.newlineOffsets[newlines]? with
    | none => rfl
    | some offset =>
      -- The line starts within the text, so its start is a word as the length of the text is.
      rw [found] at bound
      exact Word.sum?_of_lt (Nat.lt_of_le_of_lt bound brief)

theorem wordSpan_eq {content : Text} {line column : Nat} (brief : Text.byteLength content < Nat.pow 2 63)
    (near : column ≤ Nat.pow 2 63) (length : Nat) (reason : String) (help : Option String) :
    wordSpan content line column length =
      some ((placed content line column length reason help).offset,
        (placed content line column length reason help).length) := by
  have half : Word.limit = Nat.pow 2 63 + Nat.pow 2 63 := rfl
  have positive : 0 < Nat.pow 2 63 := Nat.two_pow_pos 63
  have small : Text.byteLength content < Word.limit := by omega
  have bound := Position.lineStart_le_byteLength (line - 1) content
  have sum : Position.lineStart (line - 1) content + (column - 1) < Word.limit := by omega
  have left := Word.difference?_of_le (Nat.min_le_right
    (Position.lineStart (line - 1) content + (column - 1)) (Text.byteLength content))
  simp only [wordSpan, wordLineStart_eq small, Word.sum?_of_lt sum, left, Option.bind_eq_bind,
    Option.bind_some, placed]

/-! ## Spans -/

/-- The span of a diagnostic about a line and a column lies inside the text that is shown. It starts
on that line or behind it, at the end if the text has no such line, and at the very byte that has this
line and this column if there is one. -/
structure PointsInto (diagnostic : Diagnostic) (content : Text) (line column : Nat) : Prop where
  inside : diagnostic.offset + diagnostic.length ≤ Text.byteLength content
  from_line : line ≤ content.count '\n' + 1 → ∃ before rest, content = before ++ rest ∧
    before.lastLine = [] ∧ line = before.count '\n' + 1 ∧ Text.byteLength before ≤ diagnostic.offset
  at_end : content.count '\n' + 1 < line → diagnostic.offset = Text.byteLength content
  at_byte : ∀ before c after inner, content = before ++ c :: after → inner < c.utf8Size →
    line = before.count '\n' + 1 → column = Text.byteLength before.lastLine + inner + 1 →
    diagnostic.offset = Text.byteLength before + inner

theorem placed_pointsInto {line : Nat} (counted : 1 ≤ line) (content : Text) (column length : Nat)
    (reason : String) (help : Option String) :
    (placed content line column length reason help).PointsInto content line column where
  inside := by
    dsimp only [placed]
    omega
  from_line has := by
    have earlier : line - 1 ≤ content.count '\n' := by omega
    obtain ⟨before, rest, rfl, starts, count⟩ := Text.exists_line earlier
    have start := Position.lineStart_of_lastLine starts rest
    refine ⟨before, rest, rfl, starts, by omega, ?_⟩
    dsimp only [placed]
    rw [← count, start, Text.byteLength_append]
    omega
  at_end beyond := by
    have fewer : content.count '\n' < line - 1 := by omega
    have start := Position.lineStart_of_count_lt fewer
    dsimp only [placed]
    rw [start]
    omega
  at_byte before c after inner := by
    rintro rfl within rfl rfl
    have start := Position.lineStart_add_lastLine before (c :: after)
    dsimp only [placed]
    rw [Nat.add_sub_cancel, Nat.add_sub_cancel, Text.byteLength_append, Text.byteLength_cons]
    omega

end Command.Diagnostic

/-! ## Errors of other texts -/

theorem Json.Complaint.bounds {text : Text} {error : Json.Error} (complaint : Json.Complaint text error) :
    1 ≤ error.line ∧ error.column ≤ Text.byteLength text := by
  obtain ⟨bytes, line, column⟩ := complaint.placedIn
  have start : Position.start = ⟨1, 1⟩ := rfl
  have counted : 1 ≤ Position.start.column := Nat.le_refl 1
  obtain ⟨lines, columns⟩ := Position.walkBytes_bounds counted bytes text
  rw [← line, start] at lines
  rw [start] at columns column
  dsimp only at lines columns
  omega

/-- The line and the column of a malformed index, and the bytes of its digits. -/
theorem Template.bounds_of_parse_eq_error {text : Text} {error : ParseError}
    (refused : parse text = .error error) :
    ∃ place digits, error = .invalidIndex place digits ∧ 1 ≤ place.line ∧
      place.column ≤ Text.byteLength text ∧ Text.byteLength digits < Text.byteLength text := by
  obtain ⟨before, digits, after, first, rfl⟩ := parse_eq_error_iff.mp refused
  refine ⟨_, digits, rfl, ?_⟩
  have last := Position.lineStart_add_lastLine before []
  have one : marker.utf8Size = 1 := rfl
  simp only [Position.after_eq, first.split, Text.byteLength_append, Text.byteLength_cons, one]
  omega

namespace Command.Diagnostic

/-- Diagnostics stay inside the text that they show, be it the one in which the error was found or
another one. Line and column lead to a span without any step leaving the range of machine words. It
starts at the earliest where the named line starts, or at the end if there is no such line, and at
the byte that line and column name if there is one. -/
theorem stays_inside {text content : Text} (short : Text.byteLength text < Nat.pow 2 63)
    (brief : Text.byteLength content < Nat.pow 2 63) :
    (∀ error, Template.parse text = .error error →
      wordSpanOfParseError content error =
        some ((ofParseError content error).offset, (ofParseError content error).length) ∧
      (ofParseError content error).PointsInto content error.place.line error.place.column) ∧
    (∀ error, Json.Complaint text error →
      wordSpanOfJsonError content error =
        some ((ofJsonError content error).offset, (ofJsonError content error).length) ∧
      (ofJsonError content error).PointsInto content error.line (max error.column 1)) := by
  constructor
  · intro error refused
    obtain ⟨place, digits, rfl, line, column, bytes⟩ := Template.bounds_of_parse_eq_error refused
    have width : Text.byteLength digits + 1 < Word.limit :=
      Nat.lt_of_le_of_lt bytes (Nat.lt_trans short (by decide))
    refine ⟨?_, placed_pointsInto line content _ _ _ _⟩
    rw [wordSpanOfParseError, Word.sum?_of_lt width]
    exact wordSpan_eq brief (Nat.le_of_lt (Nat.lt_of_le_of_lt column short)) _ _ _
  · intro error complaint
    obtain ⟨line, column⟩ := complaint.bounds
    have near : max error.column 1 ≤ Nat.pow 2 63 :=
      Nat.max_le.mpr ⟨Nat.le_of_lt (Nat.lt_of_le_of_lt column short), Nat.two_pow_pos 63⟩
    have named : max error.line 1 = error.line := Nat.max_eq_left line
    refine ⟨wordSpan_eq brief near _ _ _, ?_⟩
    rw [ofJsonError, named]
    exact placed_pointsInto line content _ _ _ _

def otherText : Text := "\n\n\n12345?18446744073709551616".toList

def otherParseError : ParseError := .invalidIndex ⟨4, 6⟩ "18446744073709551616".toList

def otherJsonError : Json.Error :=
  ⟨.invalidType (.atom (.number (.integer 12345))) "struct RepositoryDefinition", 4, 5⟩

def shownText : Text := "é\r\n\n\nü   x".toList

theorem stays_inside_elsewhere :
    Text.byteLength otherText < Nat.pow 2 63 ∧ Text.byteLength shownText < Nat.pow 2 63 ∧
    Template.parse otherText = .error otherParseError ∧
    wordSpanOfParseError shownText otherParseError = some (11, 1) ∧
    RepositoryDefinition.ofJsonText otherText = .error otherJsonError ∧
    wordSpanOfJsonError [] otherJsonError = some (0, 0) := by
  have refused : Template.parse otherText = .error otherParseError := by
    have cut : Template.pieces otherText =
        ([.literal "\n\n\n12345".toList, .placeholder "18446744073709551616".toList], []) := by
      decide +kernel
    rw [Template.parse, cut]
    rfl
  have failed : RepositoryDefinition.ofJsonText otherText = .error otherJsonError := by rfl
  have short : Text.byteLength otherText < Nat.pow 2 63 := by decide
  have brief : Text.byteLength shownText < Nat.pow 2 63 := by decide
  have empty : Text.byteLength [] < Nat.pow 2 63 := by decide
  obtain ⟨span, _⟩ := (stays_inside short brief).1 _ refused
  obtain ⟨cut, _⟩ := (stays_inside short empty).2 _ (.repository failed)
  exact ⟨short, brief, refused, span, failed, cut⟩

end Command.Diagnostic

end QueryTemplate
