import QueryTemplate.Proofs.ExpansionCode
import QueryTemplate.Proofs.Filling
import QueryTemplate.Proofs.InlineScan

/-! Queries that are written in a program mean what binding at run time means.

The check leaves only placeholders with an index, and each index below the number of arguments, so
that the parts of a template that passes are the segments that are read.
-/

set_option autoImplicit false

namespace QueryTemplate

open Template (Piece tokens)

namespace Inline

variable {count : Nat} {parts : List Part}

theorem Part.Denotes.segment_eq {part : Part} {segment : Segment} (denotes : part.Denotes segment) :
    part.segment = segment := by
  cases denotes with
  | literal text => rfl
  | placeholder digits index => rfl

theorem Part.check_placeholder_eq_ok_iff {digits : Text} {index : Option Nat} :
    (Part.placeholder digits index).check count = .ok () ↔ ∃ i, index = some i ∧ i < count := by
  cases index with
  | none => simp [Part.check]
  | some i =>
    by_cases below : i < count <;> simp [Part.check, below]

theorem check_eq_ok_iff : check count parts = .ok () ↔ ∀ part ∈ parts, part.check count = .ok () := by
  induction parts with
  | nil => simp [check]
  | cons part rest ih =>
    rw [List.forall_mem_cons, ← ih, check]
    cases part.check count with
    | error error => simp [Bind.bind, Except.bind]
    | ok passed => simp [Bind.bind, Except.bind]

theorem indexed_of_check (accepted : check count parts = .ok ()) (digits : Text) :
    .placeholder digits none ∉ parts := by
  intro member
  obtain ⟨index, absent, _⟩ :=
    Part.check_placeholder_eq_ok_iff.mp (check_eq_ok_iff.mp accepted _ member)
  cases absent

/-- The template of parts that passed the check refers to arguments that are given. -/
theorem within_of_check (accepted : check count parts = .ok ()) {index : Nat}
    (member : .placeholder index ∈ parts.map Part.segment) : index < count := by
  obtain ⟨part, listed, same⟩ := List.mem_map.mp member
  have passed := check_eq_ok_iff.mp accepted part listed
  cases part with
  | literal text => cases same
  | placeholder digits index? =>
    obtain ⟨held, rfl, below⟩ := Part.check_placeholder_eq_ok_iff.mp passed
    cases same
    exact below

theorem parse_of_check {text : Text} (accepted : check count (scan text) = .ok ()) :
    Template.parse text = .ok ⟨(scan text).map Part.segment⟩ := by
  have indexed := indexed_of_check accepted
  rw [scan_eq_tokens] at indexed ⊢
  have fits := fits_iff_indexed.mpr indexed
  -- Scanning and reading go by the same tokens, and a token that fits is one segment to both.
  have same : (tokens text).map Piece.segment = ((tokens text).map Part.ofPiece).map Part.segment := by
    rw [List.map_map]
    apply List.map_congr_left
    intro piece member
    exact (Part.denotes_of_fits (fits piece member)).segment_eq.symm
  rw [Template.parse_of_fits fits, same]

theorem expand_of_check {invocation : Invocation}
    (accepted : check invocation.arguments.length invocation.parts = .ok ()) :
    expand invocation = .ok ⟨invocation.parts.map Part.segment, invocation.arguments⟩ := by
  rw [expand, accepted]
  rfl

theorem query?_code (expansion : Expansion String) {values : List Argument}
    (same : values.length = expansion.arguments.length) :
    expansion.code.query? values = some ((Template.mk expansion.segments).bind values) := by
  rw [Code.query?, Expansion.expansion?_code]
  exact if_pos same

end Inline

/-- An inline template that fits its arguments means what it means at run time: its expansion, and
the code of the expansion, has the segments that are read and one argument for each expression.
Running the code on any values is filling the text with them. -/
theorem expansion_means_bindText (invocation : Inline.Invocation)
    (accepted : Inline.check invocation.arguments.length invocation.parts = .ok ()) :
    (∀ digits, .placeholder digits none ∉ invocation.parts) ∧
    ∃ template expansion, Template.parse invocation.template = .ok template ∧
      Inline.expand invocation = .ok expansion ∧
      expansion.segments = template.segments ∧ expansion.arguments = invocation.arguments ∧
      expansion.code.expansion? = some expansion ∧
      (∀ evaluate, expansion.query evaluate =
        bindText invocation.template (invocation.arguments.map evaluate)) ∧
      ∀ values, values.length = invocation.arguments.length →
        expansion.code.query? values = some (bindText invocation.template values) ∧
        ∀ error, bindText invocation.template values = .error error →
          (∀ source, error ≠ .parse source) ∧ ∀ index count, error ≠ .indexOutOfRange index count := by
  have read := Inline.parse_of_check accepted
  have filled : ∀ values, bindText invocation.template values =
      (Template.mk (invocation.parts.map Inline.Part.segment)).bind values := by
    intro values
    rw [bindText, read]
    rfl
  refine ⟨Inline.indexed_of_check accepted, _, _, read, Inline.expand_of_check accepted, rfl, rfl,
    Inline.Expansion.expansion?_code _, fun _ => (filled _).symm, ?_⟩
  intro values same
  refine ⟨(Inline.query?_code _ same).trans (congrArg some (filled values).symm), ?_⟩
  intro error failed
  rw [filled] at failed
  obtain ⟨_, _, rfl⟩ := Template.format_of_bind_eq_error (fun index member =>
    same ▸ Inline.within_of_check accepted (Template.mem_placeholders.mp member)) failed
  simp

def awkwardInvocation : Inline.Invocation :=
  ⟨"??01 \"\\\u00007?0?1?".toList, ["names[i]", "f(x, y)"]⟩

theorem expansion_means_bindText_awkward :
    Inline.check 2 awkwardInvocation.parts = .ok () ∧
    ∃ expansion, Inline.expand awkwardInvocation = .ok expansion ∧
      expansion.code.query? [.ofString ['?', '1'], .ofScalars [.integer 7, .boolean true]] =
        some (.ok "?[7,true] \"\\\u00007?1[7,true]?".toList) := by
  have cut : Template.pieces awkwardInvocation.template =
      ([.literal ['?'], .placeholder ['0', '1'], .literal " \"\\\u00007".toList, .placeholder ['0'],
        .placeholder ['1'], .literal ['?']], []) := by
    decide +kernel
  have scanned : awkwardInvocation.parts =
      [.literal ['?'], .placeholder ['0', '1'] (some 1), .literal " \"\\\u00007".toList,
        .placeholder ['0'] (some 0), .placeholder ['1'] (some 1), .literal ['?']] := by
    decide +kernel
  have accepted : Inline.check 2 awkwardInvocation.parts = .ok () := by
    rw [scanned]
    rfl
  obtain ⟨_, _, expansion, _, expanded, _, _, _, _, run⟩ :=
    expansion_means_bindText awkwardInvocation accepted
  refine ⟨accepted, expansion, expanded, ?_⟩
  rw [(run _ rfl).1, bindText, Template.parse, cut]
  rfl

end QueryTemplate
