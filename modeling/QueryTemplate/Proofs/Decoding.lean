import QueryTemplate.Proofs.Fragment

/-! Fragments, read back.

A list of texts is read from its opening bracket on, text by text up to a quote without a backslash.
The numbers and truth values of a list have no comma, so commas separate them.
-/

set_option autoImplicit false

namespace QueryTemplate

/-! ## Texts -/

namespace Text

/-- The text without its escaping backslashes; the character behind each stands for itself. -/
def unescape : Text → Text
  | [] => []
  | '\\' :: c :: rest => c :: unescape rest
  | c :: rest => c :: unescape rest

theorem unescape_pair (c : Char) (rest : Text) :
    unescape ('\\' :: c :: rest) = c :: unescape rest := rfl

theorem unescape_plain {c : Char} (plain : c ≠ '\\') (rest : Text) :
    unescape (c :: rest) = c :: unescape rest := by
  rw [unescape.eq_def]
  split <;> simp_all

theorem unescape_escapeChar (c : Char) (rest : Text) :
    unescape (escapeChar c ++ rest) = c :: unescape rest := by
  by_cases needed : needsEscape c
  · rw [escapeChar, if_pos needed]
    exact unescape_pair c rest
  · rw [escapeChar, if_neg needed]
    apply unescape_plain
    rintro rfl
    exact needed rfl

theorem unescape_escape (text : Text) : unescape (escape text) = text := by
  induction text with
  | nil => rfl
  | cons c rest ih => rw [escape_cons, unescape_escapeChar, ih]

end Text

/-! ## Lists of texts -/

namespace Fragment

def quoted? : Text → Option (Text × Text)
  | [] => none
  | '"' :: rest => some ([], rest)
  | '\\' :: c :: rest => (quoted? rest).map (Prod.map (c :: ·) id)
  | '\\' :: [] => none
  | c :: rest => (quoted? rest).map (Prod.map (c :: ·) id)

def text? : Text → Option (Text × Text)
  | '"' :: rest => quoted? rest
  | _ => none

theorem length_lt_of_quoted? {input text rest : Text} (found : quoted? input = some (text, rest)) :
    rest.length < input.length := by
  fun_induction quoted? input generalizing text rest with
  | case1 => cases found
  | case2 tail =>
    cases found
    exact Nat.lt_succ_self _
  | case3 c tail ih =>
    obtain ⟨⟨inner, behind⟩, read, same⟩ := Option.map_eq_some_iff.mp found
    cases same
    have shorter := ih read
    simp only [id_eq, List.length_cons]
    omega
  | case4 => cases found
  | case5 c tail _ _ _ ih =>
    obtain ⟨⟨inner, behind⟩, read, same⟩ := Option.map_eq_some_iff.mp found
    cases same
    exact Nat.lt_succ_of_lt (ih read)

theorem length_lt_of_text? {input text rest : Text} (found : text? input = some (text, rest)) :
    rest.length < input.length := by
  unfold text? at found
  split at found
  · exact Nat.lt_succ_of_lt (length_lt_of_quoted? found)
  · cases found

def moreTexts? (input : Text) : Option (List Text × Text) :=
  match input with
  | ']' :: rest => some ([], rest)
  | ',' :: rest =>
    match found : text? rest with
    | none => none
    | some (first, behind) =>
      have := length_lt_of_text? found
      (moreTexts? behind).map (Prod.map (first :: ·) id)
  | _ => none
termination_by input.length
decreasing_by
  simp only [List.length_cons]
  omega

def texts? : Text → Option (List Text × Text)
  | '[' :: ']' :: rest => some ([], rest)
  | '[' :: rest => do
    let (first, behind) ← text? rest
    (moreTexts? behind).map (Prod.map (first :: ·) id)
  | _ => none

theorem quoted?_escapeChar (c : Char) (rest : Text) :
    quoted? (Text.escapeChar c ++ rest) = (quoted? rest).map (Prod.map (c :: ·) id) := by
  by_cases needed : Text.needsEscape c
  · rw [Text.escapeChar, if_pos needed]
    rfl
  · rw [Text.escapeChar, if_neg needed]
    -- Neither a quote nor a backslash, so that none of the special cases applies.
    have noQuote : c ≠ '"' := by
      rintro rfl
      exact needed rfl
    have noBackslash : c ≠ '\\' := by
      rintro rfl
      exact needed rfl
    rw [List.singleton_append, quoted?.eq_def]
    split <;> simp_all

theorem quoted?_escape (text rest : Text) :
    quoted? (Text.escape text ++ '"' :: rest) = some (text, rest) := by
  induction text with
  | nil => rfl
  | cons c text ih =>
    rw [Text.escape_cons, List.append_assoc, quoted?_escapeChar, ih]
    rfl

def item (text : Text) : Text := Value.quote .string (Text.escape text)

theorem text?_item (text rest : Text) : text? (item text ++ rest) = some (text, rest) := by
  have written : item text ++ rest = '"' :: (Text.escape text ++ '"' :: rest) := by
    simp [item, Value.quote]
  rw [written]
  exact quoted?_escape text rest

theorem moreTexts?_items (texts : List Text) (rest : Text) :
    moreTexts? ((texts.map item).flatMap ([','] ++ ·) ++ ']' :: rest) = some (texts, rest) := by
  induction texts with
  | nil =>
    rw [List.map_nil, List.flatMap_nil, List.nil_append, moreTexts?]
  | cons first more ih =>
    have written : ((first :: more).map item).flatMap ([','] ++ ·) ++ ']' :: rest =
        ',' :: (item first ++ ((more.map item).flatMap ([','] ++ ·) ++ ']' :: rest)) := by
      simp
    rw [written, moreTexts?]
    split
    next absent =>
      rw [text?_item] at absent
      cases absent
    next found =>
      rw [text?_item] at found
      cases found
      rw [ih]
      rfl

/-- A list of texts is read from its fragment, and what follows the fragment is left. -/
theorem texts?_items (texts : List Text) (rest : Text) :
    texts? ('[' :: Text.join [','] (texts.map item) ++ [']'] ++ rest) = some (texts, rest) := by
  cases texts with
  | nil => rfl
  | cons first more =>
    have written : '[' :: Text.join [','] ((first :: more).map item) ++ [']'] ++ rest =
        '[' :: (item first ++ ((more.map item).flatMap ([','] ++ ·) ++ ']' :: rest)) := by
      simp [Text.join_cons]
    have opens : ∀ input, texts? ('[' :: (item first ++ input)) =
        (text? (item first ++ input)).bind fun (first, behind) =>
          (moreTexts? behind).map (Prod.map (first :: ·) id) := fun _ => rfl
    rw [written, opens, text?_item]
    simp only [Option.bind_some, moreTexts?_items]
    rfl

theorem format_strings (texts : List Text) :
    (Value.list (texts.map .string)).format .strings =
      .ok ('[' :: Text.join [','] (texts.map item) ++ [']']) := by
  have items : Value.formatElements .string 0 (texts.map .string) = .ok (texts.map item) := by
    rw [Value.formatElements_eq_ok_iff, List.forall₂_map_left_iff, List.forall₂_map_right_iff,
      List.forall₂_same]
    exact fun text _ => rfl
  rw [Value.format, items]
  rfl

/-! ## Lists of scalars -/

def betweenCommas (text : Text) : List Text := if text.isEmpty then [] else text.splitOn ','

theorem betweenCommas_join {parts : List Text} (bare : ∀ part ∈ parts, part.Bare)
    (present : ∀ part ∈ parts, part ≠ []) : betweenCommas (Text.join [','] parts) = parts := by
  have whole : ∀ part ∈ parts, ',' ∉ part := by
    intro part member comma
    exact absurd (bare part member ',' comma) (by decide)
  cases parts with
  | nil => rfl
  | cons first rest =>
    have some_text : Text.join [','] (first :: rest) ≠ [] := by
      rw [Text.join_cons]
      exact List.append_ne_nil_of_left_ne_nil (present first List.mem_cons_self) _
    rw [betweenCommas, if_neg (by simpa using some_text), Text.join_eq_intercalate]
    exact List.splitOn_intercalate ',' whole (List.cons_ne_nil first rest)

/-- The items of a list of scalars are the scalars as they stand alone, and commas cut it there. -/
theorem format_scalars {values : List Value} (scalar : ∀ value ∈ values, value.IsScalar) :
    ∃ inside, (Value.list values).format .scalars = .ok ('[' :: inside ++ [']']) ∧
      List.Forall₂ (fun value part => value.format .scalar = .ok part) values
        (betweenCommas inside) := by
  have each : ∀ value ∈ values, ∃ part, value.formatElement .scalar = .ok part := by
    intro value member
    obtain ⟨item, formatted⟩ := Value.exists_formatItem_scalar_iff.mpr (scalar value member)
    exact ⟨item, Value.formatElement_eq_ok_iff.mpr ⟨item, formatted, rfl⟩⟩
  obtain ⟨parts, listed⟩ := Value.exists_formatElements_iff.mpr each
  have plain : ∀ part ∈ parts, ∃ value : Value, value.formatItem .scalar = .ok part := by
    intro part member
    obtain ⟨value, _, formatted⟩ := Value.exists_of_mem_formatElements listed member
    obtain ⟨item, alone, rfl⟩ := Value.formatElement_eq_ok_iff.mp formatted
    exact ⟨value, alone⟩
  refine ⟨Text.join [','] parts, ?_, ?_⟩
  · rw [Value.format, listed]
    rfl
  · rw [betweenCommas_join]
    · refine (Value.formatElements_eq_ok_iff.mp listed).imp ?_
      intro value part formatted
      obtain ⟨item, alone, rfl⟩ := Value.formatElement_eq_ok_iff.mp formatted
      exact alone
    · intro part member
      obtain ⟨value, formatted⟩ := plain part member
      exact Value.bare_of_formatItem formatted
    · intro part member
      obtain ⟨value, formatted⟩ := plain part member
      exact Value.ne_nil_of_formatItem formatted

end Fragment

/-- Fragments decode uniquely. Unescaping gives back a text; a reader of lists of texts finds the
texts of any list and stops behind its fragment; and the fragment of a list of scalars is cut by its
commas into those of the scalars. -/
theorem fragments_decode :
    (∀ text, ∃ fragment, (Value.string text).format .string = .ok fragment ∧
      Text.unescape fragment = text) ∧
    (∀ texts : List Text, ∃ fragment,
      (Value.list (texts.map .string)).format .strings = .ok fragment ∧
      ∀ rest, Fragment.texts? (fragment ++ rest) = some (texts, rest)) ∧
    (∀ values : List Value, (∀ value ∈ values, value.IsScalar) →
      ∃ inside, (Value.list values).format .scalars = .ok ('[' :: inside ++ [']']) ∧
        List.Forall₂ (fun value part => value.format .scalar = .ok part) values
          (Fragment.betweenCommas inside)) ∧
    (∀ first second : List Text,
      (Value.list (first.map .string)).format .strings =
        (Value.list (second.map .string)).format .strings → first = second) := by
  have read : ∀ texts : List Text, ∃ fragment,
      (Value.list (texts.map .string)).format .strings = .ok fragment ∧
      ∀ rest, Fragment.texts? (fragment ++ rest) = some (texts, rest) := fun texts =>
    ⟨_, Fragment.format_strings texts, Fragment.texts?_items texts⟩
  refine ⟨fun text => ⟨_, rfl, Text.unescape_escape text⟩, read, fun _ => Fragment.format_scalars,
    ?_⟩
  intro first second alike
  obtain ⟨fragment, formatted, firstRead⟩ := read first
  obtain ⟨other, formattedOther, secondRead⟩ := read second
  obtain rfl : fragment = other := by
    rw [formatted, formattedOther] at alike
    exact Except.ok.inj alike
  -- One fragment is read in one way.
  have same := (firstRead []).symm.trans (secondRead [])
  exact congrArg Prod.fst (Option.some.inj same)

def awkwardTexts : List Text := [['"', ',', '\\'], [], [']', ',', '['], ['\\', '\\', '"']]

def awkwardScalars : List Value :=
  [.boolean false, .integer (-7), .float ⟨0x7ff8000000000000⟩, .float ⟨0xfff0000000000000⟩]

theorem fragments_decode_awkward :
    Fragment.texts? "[\"\\\",\\\\\",\"\",\"],[\",\"\\\\\\\\\\\"\"]\"]".toList =
      some (awkwardTexts, ['"', ']']) ∧
    (∀ value ∈ awkwardScalars, value.IsScalar) ∧
    List.Forall₂ (fun value part => value.format .scalar = .ok part) awkwardScalars
      (Fragment.betweenCommas "false,-7,NaN,-inf".toList) := by
  have scalar : ∀ value ∈ awkwardScalars, value.IsScalar := by
    intro value member
    simp only [awkwardScalars, List.mem_cons, List.not_mem_nil, or_false] at member
    rcases member with rfl | rfl | rfl | rfl <;> constructor
  obtain ⟨_, listed, numbers, _⟩ := fragments_decode
  refine ⟨?_, scalar, ?_⟩
  · obtain ⟨fragment, formatted, found⟩ := listed awkwardTexts
    obtain rfl : "[\"\\\",\\\\\",\"\",\"],[\",\"\\\\\\\\\\\"\"]".toList = fragment :=
      Except.ok.inj formatted
    exact found ['"', ']']
  · obtain ⟨inside, formatted, cut⟩ := numbers awkwardScalars scalar
    have rendered : (Value.list awkwardScalars).format .scalars =
        .ok ('[' :: "false,-7,NaN,-inf".toList ++ [']']) := rfl
    have same := List.cons.inj (Except.ok.inj (rendered.symm.trans formatted))
    obtain rfl : "false,-7,NaN,-inf".toList = inside := List.append_cancel_right same.2
    exact cut

end QueryTemplate
