import QueryTemplate.Proofs.FragmentGrammar

/-! Fragments, read back.

The reader of values on the command line is a reader of the grammar. Where a fragment is no JSON
text, it stops at the first character below the blank.
-/

set_option autoImplicit false

namespace QueryTemplate

namespace Json

theorem readValue_quote (depth : Nat) (rest : Text) :
    readValue depth ('"' :: rest) =
      (stringBody rest).map fun (text, rest) => (.string text, rest) := by
  have solid : skipBlank ('"' :: rest) = '"' :: rest := skipBlank_of_opensItem rfl
  rw [readValue.eq_def, solid]
  cases read : stringBody rest <;> simp [readAtom, read, Except.map]

theorem faults_item {text : Text} (controlled : ¬ text.FreeOfControls) (depth : Nat) :
    Faults (readValue depth) (Fragment.item text) .controlCharacter where
  opens := rfl
  fault rest := by
    obtain ⟨fault, stopped, sort⟩ := exists_fault_of_controlled controlled ('"' :: rest)
    refine ⟨fault, ?_, sort⟩
    rw [item_append, readValue_quote, stopped]
    rfl

/-- The first text with a control character is where the reader stops. -/
theorem exists_notJson_textsFragment {texts : List Text}
    (controlled : ¬ ∀ text ∈ texts, text.FreeOfControls) :
    ∃ source, Value.ofWord .strings (textsFragment texts) =
        .error (.notJson .strings (textsFragment texts) source) ∧
      source.cause = .controlCharacter := by
  rcases all_or_first Text.FreeOfControls texts with
    free | ⟨before, text, after, rfl, earlier, found⟩
  · exact absurd free controlled
  · have denote : List.Forall₂ (Denotes 126) (before.map Fragment.item) (before.map .string) :=
      denotes_map fun text member => .atom (reads_item (earlier text member)) 126
    have faults : Faults (readValue depthLimit) _ .controlCharacter :=
      .list denote (faults_item found 126).stumbles (after.map Fragment.item)
    refine exists_notJson ?_ (by simp)
    rw [textsFragment, List.map_append, List.map_cons]
    exact faults.stumbles

theorem ofWord_of_parse {fragment : Text} {value : Value} {kind : Kind} (other : kind ≠ .string)
    (read : ∃ json, parse fragment = .ok json ∧ Value.ofJson json = .ok value) :
    Value.ofWord kind fragment = .ok value := by
  obtain ⟨json, parsed, meant⟩ := read
  simp only [Value.ofWord_json other, parsed, meant]
  rfl

end Json

/-- A list of texts is read back as JSON from its fragment if no text holds a character below the
blank; otherwise such a character is where the reader stops. A list of truth values and of integers
that 64 bits hold, or such a scalar alone, is always read back. -/
theorem fragments_read_back :
    (∀ texts : List Text, ∃ fragment,
      (Value.list (texts.map .string)).format .strings = .ok fragment ∧
      ((∀ text ∈ texts, ∀ c ∈ text, ¬ c.toNat < 32) →
        Value.ofWord .strings fragment = .ok (.list (texts.map .string))) ∧
      ((∃ text ∈ texts, ∃ c ∈ text, c.toNat < 32) →
        ∃ source, Value.ofWord .strings fragment = .error (.notJson .strings fragment source) ∧
          source.cause = .controlCharacter)) ∧
    (∀ values : List Value, (∀ value ∈ values, value.Exact) → ∃ fragment,
      (Value.list values).format .scalars = .ok fragment ∧
      Value.ofWord .scalars fragment = .ok (.list values)) ∧
    (∀ value : Value, value.Exact → ∃ fragment, value.format .scalar = .ok fragment ∧
      Value.ofWord .scalar fragment = .ok value) := by
  obtain ⟨texts, scalars, single⟩ :=
    fragments_read_by_grammar Json.parse_acceptsGrammar Json.NumberText.keepsIntegers
  refine ⟨?_, ?_, ?_⟩
  · intro given
    obtain ⟨fragment, formatted, back, _⟩ := texts given
    obtain rfl := Except.ok.inj ((Fragment.format_strings given).symm.trans formatted)
    refine ⟨_, formatted, fun free => Json.ofWord_of_parse (by simp) (back free), ?_⟩
    rintro ⟨text, member, c, inside, control⟩
    exact Json.exists_notJson_textsFragment fun free => free text member c inside control
  · intro values kept
    obtain ⟨fragment, formatted, back⟩ := scalars values kept
    exact ⟨fragment, formatted, Json.ofWord_of_parse (by simp) back⟩
  · intro value kept
    obtain ⟨fragment, formatted, back⟩ := single value kept
    exact ⟨fragment, formatted, Json.ofWord_of_parse (by simp) back⟩

def deceptiveTexts : List Text := ["\\u0041\"".toList, [], "],[\\".toList, ['\x7f', 'é', '日']]

def brokenTexts : List Text := [['a'], ['b', '\n', 'c']]

def extremeScalars : List Value :=
  [.boolean true, .integer (-9223372036854775808), .integer 18446744073709551615]

theorem fragments_read_back_deceptive :
    (∀ text ∈ deceptiveTexts, ∀ c ∈ text, ¬ c.toNat < 32) ∧
    Value.ofWord .strings "[\"\\\\u0041\\\"\",\"\",\"],[\\\\\",\"\x7fé日\"]".toList =
      .ok (.list (deceptiveTexts.map .string)) ∧
    (∃ source, Value.ofWord .strings "[\"a\",\"b\nc\"]".toList =
        .error (.notJson .strings "[\"a\",\"b\nc\"]".toList source) ∧
      source.cause = .controlCharacter) ∧
    (∀ value ∈ extremeScalars, value.Exact) ∧
    Value.ofWord .scalars "[true,-9223372036854775808,18446744073709551615]".toList =
      .ok (.list extremeScalars) ∧
    Value.ofWord .scalar "-7".toList = .ok (.integer (-7)) := by
  have free : ∀ text ∈ deceptiveTexts, ∀ c ∈ text, ¬ c.toNat < 32 := by
    simp [deceptiveTexts]
  have controlled : ∃ text ∈ brokenTexts, ∃ c ∈ text, c.toNat < 32 :=
    ⟨_, List.mem_cons_of_mem _ List.mem_cons_self, '\n', by simp, by decide⟩
  have kept : ∀ value ∈ extremeScalars, value.Exact := by
    intro value member
    simp only [extremeScalars, List.mem_cons, List.not_mem_nil, or_false] at member
    rcases member with rfl | rfl | rfl
    · exact .boolean true
    · exact .integer (by decide)
    · exact .integer (by decide)
  obtain ⟨strings, scalars, single⟩ := fragments_read_back
  refine ⟨free, ?_, ?_, kept, ?_, ?_⟩
  · obtain ⟨fragment, formatted, read, _⟩ := strings deceptiveTexts
    obtain rfl : "[\"\\\\u0041\\\"\",\"\",\"],[\\\\\",\"\x7fé日\"]".toList = fragment :=
      Except.ok.inj formatted
    exact read free
  · obtain ⟨fragment, formatted, _, refused⟩ := strings brokenTexts
    obtain rfl : "[\"a\",\"b\nc\"]".toList = fragment := Except.ok.inj formatted
    exact refused controlled
  · obtain ⟨fragment, formatted, read⟩ := scalars extremeScalars kept
    obtain rfl : "[true,-9223372036854775808,18446744073709551615]".toList = fragment :=
      Except.ok.inj formatted
    exact read
  · obtain ⟨fragment, formatted, read⟩ := single (.integer (-7)) (.integer (by decide))
    obtain rfl : "-7".toList = fragment := Except.ok.inj formatted
    exact read

end QueryTemplate
