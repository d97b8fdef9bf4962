import QueryTemplate.Proofs.Tokens

/-! Placeholders where they stand in a text.

A placeholder of a text is a marker with all the digits behind it. What stands before it and behind
it are cut as texts of their own, so the placeholders among the tokens are those of the text, in
their order.
-/

set_option autoImplicit false

namespace QueryTemplate

namespace Text

/-- A marker in a text with all the digits behind it, and what stands around them. -/
structure Numbered (text before digits after : Text) : Prop where
  split : text = before ++ marker :: (digits ++ after)
  some_digits : digits ≠ []
  all : ∀ c ∈ digits, isDigit c
  ends : after.digitAhead = false

/-- Somewhere in the text is a placeholder with these digits. -/
def Refers (text digits : Text) : Prop := ∃ before after, text.Numbered before digits after

/-- Every placeholder of the text denotes a number below the limit. -/
def Within (limit : Nat) (text : Text) : Prop :=
  ∀ digits, text.Refers digits → digitsValue digits < limit

theorem digitAhead_append_marker {text : Text} (ends : text.digitAhead = false) (rest : Text) :
    digitAhead (text ++ marker :: rest) = false := by
  cases text with
  | nil => rfl
  | cons c text => exact ends

theorem Numbered.extend {text before digits after first earlier between : Text}
    (here : text.Numbered before digits after) (inside : before.Numbered first earlier between) :
    text.Numbered first earlier (between ++ marker :: (digits ++ after)) := by
  refine ⟨?_, inside.some_digits, inside.all, digitAhead_append_marker inside.ends _⟩
  rw [here.split, inside.split]
  simp

/-- The first placeholder of a sort; a placeholder of that sort before another is further left. -/
theorem exists_first {sort : Text → Prop} {text : Text}
    (present : ∃ digits, text.Refers digits ∧ sort digits) :
    ∃ before digits after, text.Numbered before digits after ∧ sort digits ∧
      ∀ earlier, before.Refers earlier → ¬ sort earlier := by
  obtain ⟨digits, ⟨before, after, here⟩, sorted⟩ := present
  induction length : before.length using Nat.strongRecOn generalizing before digits after with
  | ind n ih =>
    subst length
    by_cases first : ∀ earlier, before.Refers earlier → ¬ sort earlier
    · exact ⟨before, digits, after, here, sorted, first⟩
    · simp only [not_forall, not_not] at first
      obtain ⟨earlier, ⟨start, between, inside⟩, sorted⟩ := first
      have shorter : start.length < before.length := by
        rw [inside.split]
        simp
      exact ih _ shorter earlier sorted start _ (here.extend inside) rfl

end Text

namespace Template

theorem cuts_numbered {before digits after : Text} {pieces more : List Piece}
    (first : Cuts before pieces) (some_digits : digits ≠ [])
    (all : ∀ c ∈ digits, Text.isDigit c) (ends : after.digitAhead = false)
    (rest : Cuts after more) :
    Cuts (before ++ marker :: (digits ++ after)) (pieces ++ .placeholder digits :: more) := by
  induction first with
  | nil => exact .placeholder some_digits all ends rest
  | @placeholder earlier between pieces some_earlier all_earlier stops _ ih =>
    -- Its digits end where they did, for what comes next is a marker at most.
    rw [List.cons_append, List.append_assoc]
    exact .placeholder some_earlier all_earlier (Text.digitAhead_append_marker stops _) ih
  | @literal c between pieces plain _ ih =>
    -- A placeholder does not join the literal before it.
    have joined : Piece.consLiteral [c] (pieces ++ .placeholder digits :: more) =
        Piece.consLiteral [c] pieces ++ .placeholder digits :: more := by
      rcases pieces with _ | ⟨_ | _, pieces⟩ <;> rfl
    rw [List.cons_append, ← joined]
    exact .literal (fun same => Text.digitAhead_append_marker (plain same) _) ih

theorem tokens_of_numbered {text before digits after : Text}
    (here : text.Numbered before digits after) :
    tokens text = tokens before ++ .placeholder digits :: tokens after := by
  rw [here.split]
  exact tokens_of_cuts
    (cuts_numbered (cuts_tokens before) here.some_digits here.all here.ends (cuts_tokens after))

theorem refers_of_cuts {text digits : Text} {pieces : List Piece} (cuts : Cuts text pieces)
    (member : .placeholder digits ∈ pieces) : text.Refers digits := by
  induction cuts with
  | nil => cases member
  | @placeholder first rest pieces some_digits all ends _ ih =>
    rcases List.mem_cons.mp member with same | later
    · cases same
      exact ⟨[], rest, rfl, some_digits, all, ends⟩
    · obtain ⟨before, after, here⟩ := ih later
      refine ⟨marker :: (first ++ before), after, ?_, here.some_digits, here.all, here.ends⟩
      rw [here.split]
      simp
  | @literal c rest pieces _ _ ih =>
    obtain ⟨before, after, here⟩ := ih (mem_consLiteral_placeholder.mp member)
    exact ⟨c :: before, after, congrArg (c :: ·) here.split, here.some_digits, here.all, here.ends⟩

theorem placeholder_mem_tokens_iff {text digits : Text} :
    .placeholder digits ∈ tokens text ↔ text.Refers digits := by
  constructor
  · exact refers_of_cuts (cuts_tokens text)
  · rintro ⟨before, after, here⟩
    rw [tokens_of_numbered here]
    exact List.mem_append_right _ List.mem_cons_self

theorem fits_iff_within {text : Text} :
    (∀ piece ∈ tokens text, piece.Fits) ↔ text.Within indexLimit := by
  constructor
  · intro fits digits refers
    exact fits _ (placeholder_mem_tokens_iff.mpr refers)
  · intro within piece member
    cases piece with
    | literal text => trivial
    | placeholder digits => exact within digits (placeholder_mem_tokens_iff.mp member)

/-- A text is read if its placeholders are below the limit, and only then. -/
theorem parse_of_within {text : Text} (within : text.Within indexLimit) :
    parse text = .ok ⟨(tokens text).map Piece.segment⟩ :=
  parse_of_fits (fits_iff_within.mpr within)

theorem within_of_parse {text : Text} {template : Template} (read : parse text = .ok template) :
    text.Within indexLimit :=
  fits_iff_within.mp (fits_of_parse read)

theorem exists_parse_iff_within {text : Text} :
    (∃ template, parse text = .ok template) ↔ text.Within indexLimit :=
  ⟨fun ⟨_, read⟩ => within_of_parse read, fun within => ⟨_, parse_of_within within⟩⟩

theorem placeholder_mem_segments_iff {text : Text} {index : Nat} :
    .placeholder index ∈ (tokens text).map Piece.segment ↔
      ∃ digits, text.Refers digits ∧ Text.digitsValue digits = index := by
  rw [List.mem_map]
  constructor
  · rintro ⟨piece, member, same⟩
    cases piece with
    | literal text => cases same
    | placeholder digits =>
      cases same
      exact ⟨digits, placeholder_mem_tokens_iff.mp member, rfl⟩
  · rintro ⟨digits, refers, rfl⟩
    exact ⟨_, placeholder_mem_tokens_iff.mpr refers, rfl⟩

theorem within_iff_segments {text : Text} {limit : Nat} :
    text.Within limit ↔
      ∀ index, .placeholder index ∈ (tokens text).map Piece.segment → index < limit := by
  simp only [placeholder_mem_segments_iff]
  constructor
  · rintro within _ ⟨digits, refers, rfl⟩
    exact within digits refers
  · intro below digits refers
    exact below _ ⟨digits, refers, rfl⟩

/-- What is read refers to what the text refers to. -/
theorem forall_placeholders_lt_iff {text : Text} {template : Template} {count : Nat}
    (read : parse text = .ok template) :
    (∀ index ∈ template.placeholders, index < count) ↔ text.Within count := by
  rw [parse_of_within (within_of_parse read)] at read
  obtain rfl := Except.ok.inj read
  simp only [mem_placeholders, within_iff_segments]

end Template

end QueryTemplate
