import QueryTemplate.Proofs.First
import QueryTemplate.Template.Parse

/-! The tokens of a template.

A marker with a digit behind it takes all digits that follow, any other character is literal, and
literals that meet are one. Reading a template is looking up the indices of its tokens.
-/

set_option autoImplicit false

namespace QueryTemplate

def Text.digitAhead (text : Text) : Bool := text.head?.any isDigit

namespace Text

theorem takeWhile_isDigit_eq_nil {text : Text} :
    text.takeWhile isDigit = [] ↔ text.digitAhead = false := by
  cases text with
  | nil => simp [digitAhead]
  | cons c rest => by_cases digit : isDigit c <;> simp [digitAhead, digit]

theorem digitAhead_dropWhile (text : Text) : digitAhead (text.dropWhile isDigit) = false := by
  induction text with
  | nil => rfl
  | cons c rest ih =>
    by_cases digit : isDigit c
    · simpa [digit] using ih
    · simp [digit, digitAhead]

theorem takeWhile_digits {digits rest : Text} (all : ∀ c ∈ digits, isDigit c)
    (ends : rest.digitAhead = false) : (digits ++ rest).takeWhile isDigit = digits := by
  rw [List.takeWhile_append_of_pos all, takeWhile_isDigit_eq_nil.mpr ends, List.append_nil]

theorem dropWhile_digits {digits rest : Text} (all : ∀ c ∈ digits, isDigit c)
    (ends : rest.digitAhead = false) : (digits ++ rest).dropWhile isDigit = rest := by
  have whole := List.takeWhile_append_dropWhile (p := isDigit) (l := digits ++ rest)
  rw [takeWhile_digits all ends] at whole
  exact List.append_cancel_left whole

end Text

namespace Template

/-- Literal text in front of pieces; literals that meet become one. -/
def Piece.consLiteral (text : Text) : List Piece → List Piece
  | literal next :: rest => literal (text ++ next) :: rest
  | pieces => literal text :: pieces

theorem Piece.consLiteral_consLiteral (first second : Text) (pieces : List Piece) :
    consLiteral first (consLiteral second pieces) = consLiteral (first ++ second) pieces := by
  rcases pieces with _ | ⟨_ | _, rest⟩ <;> simp [consLiteral]

def joined : List Piece → List Piece
  | [] => []
  | .literal text :: rest => Piece.consLiteral text (joined rest)
  | .placeholder digits :: rest => .placeholder digits :: joined rest

def tokens (text : Text) : List Piece := joined (pieces text).1

/-! ## One token at a time -/

theorem pieces_of_next? {text rest : Text} {piece : Piece}
    (found : Piece.next? text = some (piece, rest)) :
    (pieces text).1 = piece :: (pieces rest).1 := by
  rw [pieces]
  split
  next absent =>
    rw [found] at absent
    cases absent
  next first later same =>
    rw [found] at same
    cases same
    rfl

theorem tokens_nil : tokens [] = [] := by
  have absent : Piece.next? [] = none := rfl
  rw [tokens, pieces]
  split
  next => rfl
  next found =>
    rw [absent] at found
    cases found

theorem tokens_placeholder {digits rest : Text} (some_digits : digits ≠ [])
    (all : ∀ c ∈ digits, Text.isDigit c) (ends : rest.digitAhead = false) :
    tokens (marker :: (digits ++ rest)) = .placeholder digits :: tokens rest := by
  have found : Piece.next? (marker :: (digits ++ rest)) = some (.placeholder digits, rest) := by
    simp [Piece.next?, Piece.placeholder?, Text.takeWhile_digits all ends,
      Text.dropWhile_digits all ends, some_digits]
  rw [tokens, pieces_of_next? found]
  rfl

theorem tokens_literal {c : Char} {rest : Text} (plain : c = marker → rest.digitAhead = false) :
    tokens (c :: rest) = Piece.consLiteral [c] (tokens rest) := by
  by_cases isMarker : c = marker
  · subst isMarker
    have noDigits := Text.takeWhile_isDigit_eq_nil.mpr (plain rfl)
    have found : Piece.next? (marker :: rest) = some (.literal [marker], rest) := by
      simp [Piece.next?, Piece.placeholder?, Piece.run?, Piece.loneMarker?, noDigits]
    rw [tokens, pieces_of_next? found]
    rfl
  · -- The character starts a run, which is one piece; the text behind it starts with a shorter run
    -- or with none at all.
    let run := rest.takeWhile (· ≠ marker)
    let behind := rest.dropWhile (· ≠ marker)
    have found : Piece.next? (c :: rest) = some (.literal (c :: run), behind) := by
      simp [Piece.next?, Piece.placeholder?, Piece.run?, isMarker, run, behind]
    rw [tokens, pieces_of_next? found, joined]
    cases rest with
    | nil => rfl
    | cons d rest =>
      by_cases alone : d = marker
      · have empty : run = [] := by simp [run, alone]
        have whole : behind = d :: rest := by simp [behind, alone]
        rw [empty, whole, tokens]
      · have later : Piece.next? (d :: rest) = some (.literal run, behind) := by
          simp [Piece.next?, Piece.placeholder?, Piece.run?, alone, run, behind]
        rw [tokens, pieces_of_next? later, joined, Piece.consLiteral_consLiteral]
        rfl

/-- How a text falls into tokens. -/
inductive Cuts : Text → List Piece → Prop where
  | nil : Cuts [] []
  | placeholder {digits rest : Text} {pieces : List Piece} (some_digits : digits ≠ [])
    (all : ∀ c ∈ digits, Text.isDigit c) (ends : rest.digitAhead = false)
    (later : Cuts rest pieces) : Cuts (marker :: (digits ++ rest)) (.placeholder digits :: pieces)
  | literal {c : Char} {rest : Text} {pieces : List Piece}
    (plain : c = marker → rest.digitAhead = false) (later : Cuts rest pieces) :
    Cuts (c :: rest) (Piece.consLiteral [c] pieces)

theorem tokens_of_cuts {text : Text} {pieces : List Piece} (cuts : Cuts text pieces) :
    tokens text = pieces := by
  induction cuts with
  | nil => exact tokens_nil
  | placeholder some_digits all ends _ ih => rw [tokens_placeholder some_digits all ends, ih]
  | literal plain _ ih => rw [tokens_literal plain, ih]

/-- Every text falls into its tokens. -/
theorem cuts_tokens (text : Text) : Cuts text (tokens text) := by
  -- On the length, since a placeholder takes any number of digits at once.
  induction length : text.length using Nat.strongRecOn generalizing text with
  | ind n ih =>
    subst length
    cases text with
    | nil => exact tokens_nil ▸ .nil
    | cons c rest =>
      by_cases opens : c = marker ∧ Text.digitAhead rest
      · obtain ⟨rfl, ahead⟩ := opens
        have split := List.takeWhile_append_dropWhile (p := Text.isDigit) (l := rest)
        have some_digits : rest.takeWhile Text.isDigit ≠ [] := by
          intro none_taken
          simp [Text.takeWhile_isDigit_eq_nil.mp none_taken] at ahead
        have all : ∀ c ∈ rest.takeWhile Text.isDigit, Text.isDigit c :=
          List.all_eq_true.mp List.all_takeWhile
        have ends := Text.digitAhead_dropWhile rest
        have shorter : (rest.dropWhile Text.isDigit).length < (marker :: rest).length :=
          Nat.lt_succ_of_le (List.dropWhile_suffix _).length_le
        rw [← split, tokens_placeholder some_digits all ends]
        exact .placeholder some_digits all ends (ih _ shorter _ rfl)
      · have plain : c = marker → Text.digitAhead rest = false := by simpa using opens
        rw [tokens_literal plain]
        exact .literal plain (ih rest.length (Nat.lt_succ_self _) rest rfl)

theorem written_consLiteral (text : Text) (pieces : List Piece) :
    (Piece.consLiteral text pieces).flatMap Piece.written =
      text ++ pieces.flatMap Piece.written := by
  rcases pieces with _ | ⟨_ | _, rest⟩ <;> simp [Piece.consLiteral, Piece.written]

theorem written_of_cuts {text : Text} {pieces : List Piece} (cuts : Cuts text pieces) :
    pieces.flatMap Piece.written = text := by
  induction cuts with
  | nil => rfl
  | placeholder _ _ _ _ ih => simp [Piece.written, ih]
  | literal _ _ ih => simp [written_consLiteral, ih]

theorem mem_consLiteral_placeholder {text digits : Text} {pieces : List Piece} :
    .placeholder digits ∈ Piece.consLiteral text pieces ↔ .placeholder digits ∈ pieces := by
  rcases pieces with _ | ⟨_ | _, rest⟩ <;> simp [Piece.consLiteral]

theorem digits_of_cuts {text digits : Text} {pieces : List Piece} (cuts : Cuts text pieces)
    (member : .placeholder digits ∈ pieces) :
    digits ≠ [] ∧ ∀ c ∈ digits, Text.isDigit c := by
  induction cuts with
  | nil => cases member
  | placeholder some_digits all _ _ ih =>
    rcases List.mem_cons.mp member with same | later
    · cases same
      exact ⟨some_digits, all⟩
    · exact ih later
  | literal _ _ ih => exact ih (mem_consLiteral_placeholder.mp member)

/-! ## Reading tokens -/

/-- The segment of a piece, whether or not its index is below the limit. -/
def Piece.segment : Piece → Segment
  | literal text => .literal text
  | placeholder digits => .placeholder (Text.digitsValue digits)

def Piece.Fits : Piece → Prop
  | literal _ => True
  | placeholder digits => Text.digitsValue digits < indexLimit

instance : DecidablePred Piece.Fits
  | .literal _ => isTrue trivial
  | .placeholder digits => inferInstanceAs (Decidable (Text.digitsValue digits < indexLimit))

theorem map_segment_consLiteral (text : Text) (pieces : List Piece) :
    (Piece.consLiteral text pieces).map Piece.segment =
      Segment.consLiteral text (pieces.map Piece.segment) := by
  rcases pieces with _ | ⟨_ | _, rest⟩ <;> rfl

theorem resolve_consLiteral (place : Position) (text : Text) (pieces : List Piece) :
    resolve place (Piece.consLiteral text pieces) =
      (resolve (place.walk text) pieces).map (Segment.consLiteral text) := by
  cases pieces with
  | nil => rfl
  | cons piece rest =>
    cases piece with
    | placeholder digits => rfl
    | literal next =>
      simp only [Piece.consLiteral, resolve, Piece.written, Position.walk_append]
      cases resolve ((place.walk text).walk next) rest with
      | error error => rfl
      | ok segments => simp [Except.map, Segment.consLiteral_consLiteral]

theorem resolve_joined (place : Position) (pieces : List Piece) :
    resolve place (joined pieces) = resolve place pieces := by
  induction pieces generalizing place with
  | nil => rfl
  | cons piece rest ih =>
    cases piece with
    | literal text =>
      rw [joined, resolve_consLiteral, ih]
      rfl
    | placeholder digits => simp only [joined, resolve, ih]

theorem parse_eq (text : Text) : parse text = (resolve .start (tokens text)).map Template.mk := by
  have rest := pieces_rest text
  rw [tokens, resolve_joined]
  simp [parse, rest]

theorem resolve_of_cuts {text : Text} {pieces : List Piece} (cuts : Cuts text pieces)
    (fits : ∀ piece ∈ pieces, piece.Fits) (place : Position) :
    resolve place pieces = .ok (pieces.map Piece.segment) := by
  induction cuts generalizing place with
  | nil => rfl
  | @placeholder digits rest pieces _ _ _ _ ih =>
    have below : Text.digitsValue digits < indexLimit := fits _ List.mem_cons_self
    have later := ih (fun piece member => fits piece (List.mem_cons_of_mem _ member))
    simp [resolve, index?, below, later, Except.map, Piece.segment]
  | @literal c rest pieces _ _ ih =>
    have later : ∀ piece ∈ pieces, piece.Fits := by
      intro piece member
      cases piece with
      | literal text => trivial
      | placeholder digits => exact fits _ (mem_consLiteral_placeholder.mpr member)
    rw [resolve_consLiteral, ih later, map_segment_consLiteral]
    rfl

/-- The first piece that denotes no index decides the error, and its place is right behind the
pieces before it. -/
theorem resolve_overflow {before after : List Piece} {digits : Text}
    (fits : ∀ piece ∈ before, piece.Fits) (overflow : indexLimit ≤ Text.digitsValue digits)
    (place : Position) :
    resolve place (before ++ .placeholder digits :: after) =
      .error (.invalidIndex (place.walk (before.flatMap Piece.written)) digits) := by
  induction before generalizing place with
  | nil => simp [resolve, index?, Nat.not_lt.mpr overflow]
  | cons piece before ih =>
    have later := ih fun piece member => fits piece (List.mem_cons_of_mem _ member)
    cases piece with
    | literal text => simp [resolve, later, Except.map, Position.walk_append]
    | placeholder first =>
      have below : Text.digitsValue first < indexLimit := fits _ List.mem_cons_self
      simp [resolve, index?, below, later, Except.map, Position.walk_append]

theorem fits_or_overflow (pieces : List Piece) :
    (∀ piece ∈ pieces, piece.Fits) ∨
      ∃ before digits after, pieces = before ++ .placeholder digits :: after ∧
        (∀ piece ∈ before, piece.Fits) ∧ indexLimit ≤ Text.digitsValue digits := by
  rcases all_or_first Piece.Fits pieces with fits | ⟨before, piece, after, split, fits, misfit⟩
  · exact .inl fits
  · cases piece with
    | literal text => exact absurd trivial misfit
    | placeholder digits => exact .inr ⟨before, digits, after, split, fits, Nat.le_of_not_lt misfit⟩

theorem parse_of_fits {text : Text} (fits : ∀ piece ∈ tokens text, piece.Fits) :
    parse text = .ok ⟨(tokens text).map Piece.segment⟩ := by
  rw [parse_eq, resolve_of_cuts (cuts_tokens text) fits]
  rfl

theorem parse_of_overflow {text digits : Text} {before after : List Piece}
    (split : tokens text = before ++ .placeholder digits :: after)
    (fits : ∀ piece ∈ before, piece.Fits) (overflow : indexLimit ≤ Text.digitsValue digits) :
    parse text =
      .error (.invalidIndex (Position.after (before.flatMap Piece.written)) digits) := by
  rw [parse_eq, split, resolve_overflow fits overflow]
  rfl

theorem parse_fails_iff {text : Text} :
    (∃ error, parse text = .error error) ↔ ¬ ∀ piece ∈ tokens text, piece.Fits := by
  constructor
  · rintro ⟨error, refused⟩ fits
    rw [parse_of_fits fits] at refused
    cases refused
  · intro misfit
    rcases fits_or_overflow (tokens text) with fits | ⟨before, digits, after, split, fits, overflow⟩
    · exact absurd fits misfit
    · exact ⟨_, parse_of_overflow split fits overflow⟩

theorem fits_of_parse {text : Text} {template : Template} (read : parse text = .ok template) :
    ∀ piece ∈ tokens text, piece.Fits := by
  by_contra misfit
  obtain ⟨error, refused⟩ := parse_fails_iff.mpr misfit
  rw [read] at refused
  cases refused

end Template

end QueryTemplate
