import QueryTemplate.Proofs.Compilation
import QueryTemplate.Proofs.InlineQuery
import QueryTemplate.Proofs.Occurrence

/-! Three checks of indices, one verdict.

An inline template is checked before it is expanded, a method when it is compiled, a text when it is
filled. They accept the same texts, and what they refuse they refuse at the same placeholder.
-/

set_option autoImplicit false

namespace QueryTemplate

open Template (Piece tokens)

variable {text : Text}

/-! ## What is accepted -/

namespace Inline

variable {count : Nat}

theorem Part.check_ofPiece_eq_ok_iff {digits : Text} :
    (Part.ofPiece (.placeholder digits)).check count = .ok () ↔
      Text.digitsValue digits < indexLimit ∧ Text.digitsValue digits < count := by
  rw [Part.ofPiece, Part.check_placeholder_eq_ok_iff, QueryTemplate.index?]
  by_cases below : Text.digitsValue digits < indexLimit <;> simp [below]

theorem check_scan_eq_ok_iff :
    check count (scan text) = .ok () ↔ text.Within indexLimit ∧ text.Within count := by
  rw [scan_eq_tokens, check_eq_ok_iff, List.forall_mem_map]
  constructor
  · intro passed
    have each : ∀ digits, text.Refers digits → _ := fun digits refers =>
      Part.check_ofPiece_eq_ok_iff.mp (passed _ (Template.placeholder_mem_tokens_iff.mpr refers))
    exact ⟨fun digits refers => (each digits refers).1, fun digits refers => (each digits refers).2⟩
  · rintro ⟨fits, within⟩ piece member
    cases piece with
    | literal text => rfl
    | placeholder digits =>
      have refers := Template.placeholder_mem_tokens_iff.mp member
      exact Part.check_ofPiece_eq_ok_iff.mpr ⟨fits digits refers, within digits refers⟩

end Inline

namespace Template

/-- A text is read as a template with small indices exactly if its placeholders denote small indices. -/
theorem exists_parse_iff {count : Nat} :
    (∃ template, parse text = .ok template ∧ ∀ index ∈ template.placeholders, index < count) ↔
      text.Within indexLimit ∧ text.Within count := by
  constructor
  · rintro ⟨template, read, below⟩
    exact ⟨within_of_parse read, (forall_placeholders_lt_iff read).mp below⟩
  · rintro ⟨fits, within⟩
    have read := parse_of_within fits
    exact ⟨_, read, (forall_placeholders_lt_iff read).mpr within⟩

end Template

namespace Method

theorem exists_compile_iff {name : String} {params : List Kind} :
    (∃ method, compile ⟨name, text, params⟩ = .ok method) ↔
      text.Within indexLimit ∧ text.Within params.length := by
  rw [← Template.exists_parse_iff]
  constructor
  · rintro ⟨method, compiled⟩
    obtain ⟨valid, same⟩ := compile_eq_ok_iff.mp compiled
    cases same
    exact ⟨method.template, valid.parsed, valid.within⟩
  · rintro ⟨template, read, below⟩
    exact ⟨⟨name, text, template, params⟩, compile_eq_ok_iff.mpr ⟨⟨read, below⟩, rfl⟩⟩

end Method

variable {arguments : List Argument}

theorem exists_bindText_iff (conform : Argument.Conform arguments) :
    (∃ query, bindText text arguments = .ok query) ↔
      text.Within indexLimit ∧ text.Within arguments.length := by
  rw [← Template.exists_parse_iff]
  cases read : Template.parse text with
  | error source => simp [bindText, read]
  | ok template => simp [bindText, read, Template.exists_bind_iff, conform.gives_iff]

/-! ## What is refused -/

namespace Inline

variable {count : Nat} {before after : List Part} {part : Part} {error : CheckError}

theorem check_eq_error_of_first (passed : check count before = .ok ())
    (failed : part.check count = .error error) :
    check count (before ++ part :: after) = .error error := by
  induction before with
  | nil =>
    rw [List.nil_append, check, failed]
    rfl
  | cons first before ih =>
    have each := check_eq_ok_iff.mp passed
    rw [List.cons_append, check, each first List.mem_cons_self]
    exact ih (check_eq_ok_iff.mpr fun part member => each part (List.mem_cons_of_mem first member))

end Inline

/-- The placeholder that decides: it is beyond the count, and no placeholder before it is. -/
structure Text.FirstBeyond (text : Text) (count : Nat) (before digits after : Text) : Prop
    extends Text.Numbered text before digits after where
  beyond : count ≤ digitsValue digits
  earlier : before.Within count

theorem Text.exists_firstBeyond {count : Nat}
    (present : ∃ digits, text.Refers digits ∧ count ≤ digitsValue digits) :
    ∃ before digits after, text.FirstBeyond count before digits after := by
  obtain ⟨before, digits, after, here, beyond, first⟩ := exists_first present
  exact ⟨before, digits, after, here, beyond,
    fun earlier refers => Nat.lt_of_not_le (first earlier refers)⟩

namespace Text.FirstBeyond

variable {count : Nat} {before digits after : Text}

/-- The segments that are read are cut at the same placeholder as the text. -/
theorem parse_eq (first : text.FirstBeyond count before digits after)
    (fits : text.Within indexLimit) :
    Template.parse text = .ok ⟨(tokens before).map Piece.segment ++
      .placeholder (digitsValue digits) :: (tokens after).map Piece.segment⟩ := by
  rw [Template.parse_of_within fits, Template.tokens_of_numbered first.toNumbered,
    List.map_append]
  rfl

theorem lt_of_mem (first : text.FirstBeyond count before digits after) {index : Nat}
    (member : .placeholder index ∈ (tokens before).map Piece.segment) : index < count :=
  Template.within_iff_segments.mp first.earlier index member

theorem check_scan_eq (first : text.FirstBeyond count before digits after)
    (fits : text.Within indexLimit) :
    Inline.check count (Inline.scan text) =
      .error (.indexOutOfRange (digitsValue digits) count) := by
  have below : digitsValue digits < indexLimit := fits digits ⟨before, after, first.toNumbered⟩
  -- The text before it passes on its own, since its placeholders are placeholders of the whole.
  have passed : Inline.check count (Inline.scan before) = .ok () :=
    Inline.check_scan_eq_ok_iff.mpr
      ⟨fun earlier ⟨start, between, inside⟩ =>
        fits earlier ⟨start, _, first.toNumbered.extend inside⟩, first.earlier⟩
  have failed : (Inline.Part.ofPiece (.placeholder digits)).check count =
      .error (.indexOutOfRange (digitsValue digits) count) := by
    simp [Inline.Part.ofPiece, Inline.Part.check, QueryTemplate.index?, below,
      Nat.not_lt.mpr first.beyond]
  rw [Inline.scan_eq_tokens] at passed
  rw [Inline.scan_eq_tokens, Template.tokens_of_numbered first.toNumbered, List.map_append]
  exact Inline.check_eq_error_of_first passed failed

theorem compile_eq {params : List Kind} (first : text.FirstBeyond params.length before digits after)
    (fits : text.Within indexLimit) (name : String) :
    Method.compile ⟨name, text, params⟩ =
      .error (.indexOutOfRange name (digitsValue digits) params.length) := by
  have found : (Template.placeholders ⟨(tokens before).map Piece.segment ++
      .placeholder (digitsValue digits) :: (tokens after).map Piece.segment⟩).find?
        (params.length ≤ ·) = some (digitsValue digits) := by
    simp only [Template.placeholders, List.filterMap_append, List.find?_append]
    rw [List.find?_eq_none.mpr]
    · simp [Segment.index?, first.beyond]
    · intro index member
      have below := first.lt_of_mem (Template.mem_placeholders.mp member)
      simpa using below
  simp only [Method.compile, first.parse_eq fits, found]

theorem bindText_eq (first : text.FirstBeyond arguments.length before digits after)
    (fits : text.Within indexLimit) (conform : Argument.Conform arguments) :
    bindText text arguments =
      .error (.indexOutOfRange (digitsValue digits) arguments.length) := by
  rw [bindText, first.parse_eq fits]
  refine Template.bind_eq_error_iff.mpr ⟨_, _, _, rfl, ?_, .outOfRange first.beyond⟩
  intro index member
  exact conform.gives_iff.mpr (first.lt_of_mem member)

end Text.FirstBeyond

/-- The check of an inline template, the compilation of a method and the filling of a text accept
the same texts. A placeholder beyond the limit of indices is an error of reading to a method and to
a text; otherwise all three name the first placeholder beyond the count. -/
theorem index_checks_agree (invocation : Inline.Invocation) (name : String) (params : List Kind)
    (arguments : List Argument) (declared : params.length = invocation.arguments.length)
    (given : arguments.length = invocation.arguments.length)
    (conform : Argument.Conform arguments) :
    ((Inline.check invocation.arguments.length invocation.parts = .ok () ↔
        ∃ method, Method.compile ⟨name, invocation.template, params⟩ = .ok method) ∧
      ((∃ method, Method.compile ⟨name, invocation.template, params⟩ = .ok method) ↔
        ∃ query, bindText invocation.template arguments = .ok query) ∧
      ((∃ query, bindText invocation.template arguments = .ok query) ↔
        invocation.template.Within indexLimit ∧
        invocation.template.Within invocation.arguments.length)) ∧
    (¬ invocation.template.Within indexLimit →
      ∃ source,
        Method.compile ⟨name, invocation.template, params⟩ = .error (.parse name source) ∧
        bindText invocation.template arguments = .error (.parse source)) ∧
    (invocation.template.Within indexLimit →
      ¬ invocation.template.Within invocation.arguments.length →
      ∃ before digits after,
        invocation.template.FirstBeyond invocation.arguments.length before digits after ∧
        Inline.check invocation.arguments.length invocation.parts =
          .error (.indexOutOfRange (Text.digitsValue digits) invocation.arguments.length) ∧
        (Inline.CheckError.indexOutOfRange (Text.digitsValue digits)
            invocation.arguments.length).message =
          s!"placeholder ?{Text.digitsValue digits} is out of range: {invocation.arguments.length} arguments given\nhelp: {Inline.CheckError.help invocation.arguments.length}" ∧
        Method.compile ⟨name, invocation.template, params⟩ =
          .error (.indexOutOfRange name (Text.digitsValue digits) params.length) ∧
        bindText invocation.template arguments =
          .error (.indexOutOfRange (Text.digitsValue digits) arguments.length)) := by
  have checked : Inline.check invocation.arguments.length invocation.parts = .ok () ↔
      invocation.template.Within indexLimit ∧
      invocation.template.Within invocation.arguments.length := Inline.check_scan_eq_ok_iff
  have compiled : (∃ method, Method.compile ⟨name, invocation.template, params⟩ = .ok method) ↔
      invocation.template.Within indexLimit ∧
      invocation.template.Within invocation.arguments.length :=
    declared ▸ Method.exists_compile_iff
  have filled : (∃ query, bindText invocation.template arguments = .ok query) ↔
      invocation.template.Within indexLimit ∧
      invocation.template.Within invocation.arguments.length :=
    given ▸ exists_bindText_iff conform
  refine ⟨⟨checked.trans compiled.symm, compiled.trans filled.symm, filled⟩, ?_, ?_⟩
  · -- Reading fails, and both report what it failed with.
    intro overflow
    rw [← Template.fits_iff_within, ← Template.parse_fails_iff] at overflow
    obtain ⟨source, refused⟩ := overflow
    exact ⟨source, by simp [Method.compile, refused], by simp [bindText, refused]⟩
  · intro fits outside
    obtain ⟨digits, beyond⟩ := not_forall.mp outside
    obtain ⟨refers, beyond⟩ := Classical.not_imp.mp beyond
    obtain ⟨before, digits, after, first⟩ :=
      Text.exists_firstBeyond ⟨digits, refers, Nat.le_of_not_lt beyond⟩
    refine ⟨before, digits, after, first, first.check_scan_eq fits, rfl, ?_, ?_⟩
    · rw [← declared] at first
      exact first.compile_eq fits name
    · rw [← given] at first
      exact first.bindText_eq fits conform

def strayText : Text := "?1 ?07?7?2".toList

def pairOfArguments : List Argument := [.ofString ['"'], .ofScalars []]

theorem index_checks_agree_stray :
    Argument.Conform pairOfArguments ∧
    (Inline.check 2 (Inline.scan strayText) = .error (.indexOutOfRange 7 2) ∧
      Method.compile ⟨"stray", strayText, [.scalar, .scalar]⟩ =
        .error (.indexOutOfRange "stray" 7 2) ∧
      bindText strayText pairOfArguments = .error (.indexOutOfRange 7 2)) ∧
    ∃ source,
      Method.compile ⟨"huge", overflowingText, [.scalar, .scalar]⟩ = .error (.parse "huge" source) ∧
      bindText overflowingText pairOfArguments = .error (.parse source) := by
  have conform : Argument.Conform pairOfArguments := by
    intro argument member
    obtain rfl | rfl : argument = .ofString ['"'] ∨ argument = .ofScalars [] := by
      simpa [pairOfArguments] using member
    · exact ⟨_, rfl⟩
    · exact ⟨_, rfl⟩
  have cut : Template.pieces strayText =
      ([.placeholder ['1'], .literal [' '], .placeholder ['0', '7'], .placeholder ['7'],
        .placeholder ['2']], []) := by
    decide +kernel
  have read : Template.parse strayText =
      .ok ⟨[.placeholder 1, .literal [' '], .placeholder 7, .placeholder 7, .placeholder 2]⟩ := by
    rw [Template.parse, cut]
    rfl
  have fits : strayText.Within indexLimit := Template.within_of_parse read
  have outside : ¬ strayText.Within 2 := by
    rw [← Template.forall_placeholders_lt_iff read]
    decide
  have overflow : ¬ overflowingText.Within indexLimit := by
    intro within
    have huge : overflowingText.Refers "18446744073709551616".toList :=
      ⟨"?1?".toList, "x?99999999999999999999".toList, rfl, by decide, List.all_eq_true.mp rfl, rfl⟩
    exact absurd (within _ huge) (by decide)
  obtain ⟨_, _, named⟩ := index_checks_agree ⟨strayText, ["a", "b"]⟩ "stray" [.scalar, .scalar]
    pairOfArguments rfl rfl conform
  obtain ⟨_, unread, _⟩ := index_checks_agree ⟨overflowingText, ["a", "b"]⟩ "huge"
    [.scalar, .scalar] pairOfArguments rfl rfl conform
  refine ⟨conform, ?_, unread overflow⟩
  obtain ⟨before, digits, after, _, checked, _, compiled, filled⟩ := named fits outside
  -- Filling the text shows which placeholder it is.
  have seventh : Text.digitsValue digits = 7 := by
    rw [bindText, read] at filled
    have named : BindError.indexOutOfRange 7 2 = .indexOutOfRange (Text.digitsValue digits) 2 :=
      Except.error.inj filled
    exact (BindError.indexOutOfRange.inj named).1.symm
  rw [seventh] at checked compiled filled
  exact ⟨checked, compiled, filled⟩

end QueryTemplate
