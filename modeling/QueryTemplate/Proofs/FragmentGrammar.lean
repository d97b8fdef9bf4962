import QueryTemplate.Proofs.Decoding
import QueryTemplate.Proofs.First
import QueryTemplate.Proofs.ReadJson

/-! Fragments and the grammar of JSON.

Fragments of collections are arrays as JSON writes them, unless a text has a character below the
blank: then its fragment is no JSON text at all. So every reader of the grammar reads the same
fragments back, whatever it takes numerals for.
-/

set_option autoImplicit false

namespace QueryTemplate

def Text.FreeOfControls (text : Text) : Prop := ∀ c ∈ text, ¬ c.toNat < 32

namespace Json

/-! ## Texts -/

/-- But for characters below the blank, a fragment escapes what JSON escapes. -/
theorem escapeChar_eq {c : Char} (printable : ¬ c.toNat < 32) :
    Text.escapeChar c = writtenChar c := by
  have other : ∀ control : Char, control.toNat < 32 → c ≠ control := by
    rintro control small rfl
    exact printable small
  by_cases quotes : c = '"' ∨ c = '\\'
  · have needed : Text.needsEscape c := by simpa [Text.needsEscape] using quotes
    rw [Text.escapeChar, if_pos needed, writtenChar, if_pos quotes]
  · have plain : ¬ Text.needsEscape c := by simpa [Text.needsEscape] using quotes
    rw [Text.escapeChar, if_neg plain, writtenChar, if_neg quotes, if_neg (other _ (by decide)),
      if_neg (other _ (by decide)), if_neg (other _ (by decide)), if_neg (other _ (by decide)),
      if_neg (other _ (by decide)), if_neg printable]

theorem escape_eq {text : Text} (free : text.FreeOfControls) :
    Text.escape text = text.flatMap writtenChar := by
  induction text with
  | nil => rfl
  | cons c text ih =>
    obtain ⟨printable, later⟩ := List.forall_mem_cons.mp free
    rw [Text.escape_cons, escapeChar_eq printable, ih later, List.flatMap_cons]

theorem spelledText_escape {text : Text} (free : text.FreeOfControls) :
    SpelledText (Text.escape text) text := by
  rw [escape_eq free]
  exact spelledText_written text

theorem stringBody_control {c : Char} (control : c.toNat < 32) (rest : Text) :
    stringBody (Text.escapeChar c ++ rest) = fail .controlCharacter (c :: rest) 1 := by
  have plain : ¬ Text.needsEscape c := by
    intro needed
    obtain rfl | rfl : c = '"' ∨ c = '\\' := by simpa [Text.needsEscape] using needed
    all_goals exact absurd control (by decide)
  rw [Text.escapeChar, if_neg plain, List.singleton_append, stringBody.eq_def]
  split
  next same => cases same
  next same => cases same; exact absurd control (by decide)
  next same => cases same; exact absurd control (by decide)
  next same => cases same; rw [if_pos control]

/-- The first character below the blank is where a string ends without a closing quote. -/
theorem exists_fault_of_controlled {text : Text} (controlled : ¬ text.FreeOfControls) (rest : Text) :
    ∃ fault, stringBody (Text.escape text ++ rest) = .error fault ∧
      fault.cause = .controlCharacter := by
  rcases all_or_first (fun c : Char => ¬ c.toNat < 32) text with
    free | ⟨before, c, after, rfl, earlier, found⟩
  · exact absurd free controlled
  · refine ⟨⟨.controlCharacter, c :: (Text.escape after ++ rest), 1⟩, ?_, rfl⟩
    rw [Text.escape_append, Text.escape_cons, List.append_assoc, List.append_assoc,
      stringBody_spelled (spelledText_escape earlier), stringBody_control (not_not.mp found)]
    rfl

theorem item_append (text rest : Text) :
    Fragment.item text ++ rest = '"' :: (Text.escape text ++ '"' :: rest) := by
  simp [Fragment.item, Value.quote]

theorem item_eq {text : Text} (free : text.FreeOfControls) :
    Fragment.item text = writtenAtom (.string text) := by
  rw [← List.append_nil (Fragment.item text), item_append, escape_eq free]
  simp [writtenAtom, writtenString]

theorem reads_item {text : Text} (free : text.FreeOfControls) :
    Reads readAtom (Fragment.item text) (.string text) := by
  rw [item_eq free]
  exact SpelledAtom.reads (legible_string text)

/-! ## Arrays of values without parts -/

def listed (atoms : List Atom) : Json := .array (atoms.map .atom)

variable {means : Meaning} {atoms : List Atom}

theorem compact_listed (atoms : List Atom) :
    (listed atoms).compact = bracketed (Text.join [','] (atoms.map writtenAtom)) := by
  rw [listed, compact, compactItems_eq, List.map_map]
  rfl

theorem builtOf_listed (legible : ∀ a ∈ atoms, Legible means a) (depth : Nat) :
    BuiltOf (Legible means) (depth + 1) (listed atoms) := by
  refine .array ?_
  rw [List.forall_mem_map]
  exact fun a member => .atom depth (legible a member)

theorem ofJson_listed (atoms : List Atom) :
    Value.ofJson (listed atoms) = .ok (.list (atoms.map Value.ofAtom)) := by
  have items : Value.ofJsonItems (atoms.map .atom) = .ok (atoms.map Value.ofAtom) := by
    induction atoms with
    | nil => rfl
    | cons a atoms ih =>
      simp only [List.map_cons, Value.ofJsonItems, Value.ofJson_atom, ih, bind, Except.bind]
  rw [listed, Value.ofJson, items]
  rfl

/-! ## Texts in arrays -/

def textsFragment (texts : List Text) : Text :=
  bracketed (Text.join [','] (texts.map Fragment.item))

theorem textsFragment_eq {texts : List Text} (free : ∀ text ∈ texts, text.FreeOfControls) :
    textsFragment texts = (listed (texts.map .string)).compact := by
  have items : texts.map Fragment.item = (texts.map Atom.string).map writtenAtom := by
    rw [List.map_map]
    exact List.map_congr_left fun text member => item_eq (free text member)
  rw [textsFragment, items, compact_listed]

theorem legible_strings (texts : List Text) : ∀ a ∈ texts.map Atom.string, Legible means a :=
  List.forall_mem_map.mpr fun text _ => legible_string text

theorem ofJson_strings (texts : List Text) :
    Value.ofJson (listed (texts.map .string)) = .ok (.list (texts.map .string)) := by
  rw [ofJson_listed, List.map_map]
  rfl

end Json

/-! ## Scalars -/

/-- The scalars that JSON has: truth values and integers of 64 bits. -/
inductive Value.Exact : Value → Prop where
  | boolean (b : Bool) : Exact (.boolean b)
  | integer {n : Int} (fits : Json.Fits n) : Exact (.integer n)

namespace Json

variable {means : Meaning}

/-- An exact scalar is formatted as JSON writes it. -/
theorem exists_atom_of_exact (keeps : KeepsIntegers means) {value : Value} (kept : value.Exact) :
    ∃ a, Legible means a ∧ Value.ofAtom a = value ∧
      value.formatItem .scalar = .ok (writtenAtom a) := by
  cases kept with
  | boolean b =>
    refine ⟨.boolean b, legible_boolean b, rfl, ?_⟩
    cases b <;> rfl
  | integer fits => exact ⟨_, legible_integer keeps fits, rfl, rfl⟩

theorem exists_atoms_of_exact (keeps : KeepsIntegers means) {values : List Value}
    (kept : ∀ value ∈ values, value.Exact) :
    ∃ atoms : List Atom, (∀ a ∈ atoms, Legible means a) ∧ atoms.map Value.ofAtom = values ∧
      (Value.list values).format .scalars = .ok (listed atoms).compact := by
  have parts : ∃ atoms : List Atom, (∀ a ∈ atoms, Legible means a) ∧
      atoms.map Value.ofAtom = values ∧
      List.Forall₂ (fun value part => value.formatElement .scalar = .ok part) values
        (atoms.map writtenAtom) := by
    induction values with
    | nil => exact ⟨[], fun _ member => absurd member List.not_mem_nil, rfl, .nil⟩
    | cons value rest ih =>
      obtain ⟨first, later⟩ := List.forall_mem_cons.mp kept
      obtain ⟨a, legible, same, formatted⟩ := exists_atom_of_exact keeps first
      obtain ⟨atoms, legibles, rfl, more⟩ := ih later
      exact ⟨a :: atoms, List.forall_mem_cons.mpr ⟨legible, legibles⟩, by rw [List.map_cons, same],
        .cons (Value.formatElement_eq_ok_iff.mpr ⟨_, formatted, rfl⟩) more⟩
  obtain ⟨atoms, legible, same, formatted⟩ := parts
  refine ⟨atoms, legible, same, ?_⟩
  rw [Value.format, Value.formatElements_eq_ok_iff.mpr formatted, compact_listed]
  rfl

/-! ## What is no JSON text -/

variable {written blanks rest tail : Text} {json : Json} {places : List Place} {place : Place}
  {text : Text} {texts : List Text}

theorem eq_nil_of_blank (blank : Blank blanks) {c : Char} (solid : isBlank c = false)
    (same : blanks ++ rest = c :: tail) : blanks = [] ∧ rest = c :: tail := by
  cases blanks with
  | nil => exact ⟨rfl, same⟩
  | cons b blanks =>
    cases same
    have white := blank c List.mem_cons_self
    rw [solid] at white
    cases white

theorem exists_quoted_of_append (spells : Spells means written json)
    (same : written ++ rest = '"' :: tail) :
    ∃ body meant, SpelledText body meant ∧ body ++ '"' :: rest = tail := by
  cases spells with
  | array => cases same
  | object => cases same
  | atom spelled =>
    cases spelled with
    | null => cases same
    | yes => cases same
    | no => cases same
    | number spelled =>
      obtain ⟨c, behind, rfl, rfl | digit⟩ := spelled.exists_cons
      · cases same
      · cases same
        cases digit
    | string spelled =>
      refine ⟨_, _, spelled, ?_⟩
      simpa using same

theorem exists_places_of_append (spells : Spells means written json)
    (same : written ++ rest = '[' :: tail) :
    ∃ (places : List Place) (blanks : Text), Blank blanks ∧
      (∀ place ∈ places, Spells means place.written place.json) ∧
      Text.join [','] (places.map Place.text) ++ (blanks ++ ']' :: rest) = tail := by
  cases spells with
  | array places each blank =>
    refine ⟨places, _, blank, each, ?_⟩
    simpa using same
  | object => cases same
  | atom spelled =>
    cases spelled with
    | null => cases same
    | yes => cases same
    | no => cases same
    | string => cases same
    | number spelled =>
      obtain ⟨c, behind, rfl, rfl | digit⟩ := spelled.exists_cons
      · cases same
      · cases same
        cases digit

theorem free_of_quoted {body meant behind : Text} (spelled : SpelledText body meant)
    (same : body ++ '"' :: rest = Text.escape text ++ '"' :: behind) :
    text.FreeOfControls ∧ rest = behind := by
  have found := stringBody_quoted spelled rest
  rw [same] at found
  by_cases free : text.FreeOfControls
  · rw [stringBody_quoted (spelledText_escape free)] at found
    cases found
    exact ⟨free, rfl⟩
  · obtain ⟨fault, stopped, _⟩ := exists_fault_of_controlled free ('"' :: behind)
    rw [found] at stopped
    cases stopped

theorem free_of_place (spells : Spells means place.written place.json)
    (same : place.text ++ rest = Fragment.item text ++ tail) :
    text.FreeOfControls ∧ place.after ++ rest = tail := by
  have opened : place.before ++ (place.written ++ (place.after ++ rest)) =
      '"' :: (Text.escape text ++ '"' :: tail) := by
    rw [← item_append, ← same]
    simp [Place.text]
  obtain ⟨-, starts⟩ := eq_nil_of_blank place.leading rfl opened
  obtain ⟨body, meant, spelled, inside⟩ := exists_quoted_of_append spells starts
  exact free_of_quoted spelled inside

/-- Places that make up the fragments of texts are these fragments, one by one. -/
theorem free_of_places (blank : Blank blanks)
    (each : ∀ other ∈ place :: places, Spells means other.written other.json)
    (same : place.text ++ ((places.map Place.text).flatMap ([','] ++ ·) ++ (blanks ++ ']' :: rest)) =
      Fragment.item text ++ ((texts.map Fragment.item).flatMap ([','] ++ ·) ++ [']'])) :
    ∀ other ∈ text :: texts, other.FreeOfControls := by
  induction texts generalizing place places text with
  | nil =>
    obtain ⟨free, -⟩ := free_of_place (each place List.mem_cons_self) same
    exact List.forall_mem_singleton.mpr free
  | cons next texts ih =>
    obtain ⟨free, behind⟩ := free_of_place (each place List.mem_cons_self) same
    have spread : ((next :: texts).map Fragment.item).flatMap ([','] ++ ·) ++ [']'] =
        ',' :: (Fragment.item next ++ ((texts.map Fragment.item).flatMap ([','] ++ ·) ++ [']'])) := by
      simp
    rw [spread] at behind
    obtain ⟨-, comma⟩ := eq_nil_of_blank place.trailing rfl behind
    refine List.forall_mem_cons.mpr ⟨free, ?_⟩
    cases places with
    | nil =>
      obtain ⟨-, close⟩ := eq_nil_of_blank blank rfl comma
      cases close
    | cons other places =>
      refine ih (fun another member => each another (List.mem_cons_of_mem _ member)) ?_
      simpa only [List.map_cons, List.flatMap_cons, List.cons_append, List.nil_append,
        List.append_assoc, List.cons.injEq, true_and] using comma

theorem textsFragment_cons :
    textsFragment (text :: texts) =
      '[' :: (Fragment.item text ++ ((texts.map Fragment.item).flatMap ([','] ++ ·) ++ [']'])) := by
  simp [textsFragment, bracketed, Text.join_cons]

theorem exists_stands_textsFragment_iff :
    (∃ json, Stands means (textsFragment texts) json) ↔ ∀ text ∈ texts, text.FreeOfControls := by
  constructor
  · rintro ⟨json, whole, same, rfl, spells⟩
    cases texts with
    | nil => exact fun _ member => absurd member List.not_mem_nil
    | cons text texts =>
      rw [textsFragment_cons] at same
      obtain ⟨-, opened⟩ := eq_nil_of_blank whole.leading rfl same
      obtain ⟨places, blanks, blank, each, inside⟩ := exists_places_of_append spells opened
      cases places with
      | nil =>
        rw [item_append] at inside
        obtain ⟨-, close⟩ := eq_nil_of_blank blank rfl inside
        cases close
      | cons place places =>
        rw [List.map_cons, Text.join_cons, List.append_assoc] at inside
        exact free_of_places blank each inside
  · intro free
    rw [textsFragment_eq free]
    exact ⟨_, writes_compact (builtOf_listed (legible_strings texts) 0)⟩

/-! ## Readers -/

theorem AcceptsGrammar.exists_read {ε : Type} {read : Text → Except ε Json} {limit : Nat}
    (accepts : AcceptsGrammar means limit read) (built : BuiltOf (Legible means) limit json)
    {value : Value} (meant : Value.ofJson json = .ok value) :
    ∃ found, read json.compact = .ok found ∧ Value.ofJson found = .ok value :=
  ⟨json, (accepts _ _).mpr ⟨writes_compact built, built.mono fun _ _ => trivial⟩, meant⟩

end Json

open Json in
/-- Every reader of the grammar reads the fragment of a list of texts back if no text holds a
character below the blank, and refuses it otherwise. Lists of exact scalars, and exact scalars alone,
it always reads back. -/
theorem fragments_read_by_grammar {ε : Type} {means : Meaning} {limit : Nat}
    {read : Text → Except ε Json} (accepts : AcceptsGrammar means (limit + 1) read)
    (keeps : KeepsIntegers means) :
    (∀ texts : List Text, ∃ fragment,
      (Value.list (texts.map .string)).format .strings = .ok fragment ∧
      ((∀ text ∈ texts, text.FreeOfControls) → ∃ json, read fragment = .ok json ∧
        Value.ofJson json = .ok (.list (texts.map .string))) ∧
      ((∃ text ∈ texts, ¬ text.FreeOfControls) → ∀ json, read fragment ≠ .ok json)) ∧
    (∀ values : List Value, (∀ value ∈ values, value.Exact) → ∃ fragment,
      (Value.list values).format .scalars = .ok fragment ∧
      ∃ json, read fragment = .ok json ∧ Value.ofJson json = .ok (.list values)) ∧
    (∀ value : Value, value.Exact → ∃ fragment, value.format .scalar = .ok fragment ∧
      ∃ json, read fragment = .ok json ∧ Value.ofJson json = .ok value) := by
  refine ⟨fun texts => ⟨textsFragment texts, Fragment.format_strings texts, ?_, ?_⟩, ?_, ?_⟩
  · intro free
    rw [textsFragment_eq free]
    exact accepts.exists_read (builtOf_listed (legible_strings texts) limit) (ofJson_strings texts)
  · rintro ⟨text, member, controlled⟩ json found
    have stands := ((accepts _ _).mp found).1
    exact controlled (exists_stands_textsFragment_iff.mp ⟨json, stands⟩ text member)
  · intro values kept
    obtain ⟨atoms, legible, rfl, formatted⟩ := exists_atoms_of_exact keeps kept
    exact ⟨_, formatted, accepts.exists_read (builtOf_listed legible limit) (ofJson_listed atoms)⟩
  · intro value kept
    obtain ⟨a, legible, rfl, formatted⟩ := exists_atom_of_exact keeps kept
    exact ⟨_, formatted, accepts.exists_read (.atom _ legible) (Value.ofJson_atom a)⟩

end QueryTemplate
