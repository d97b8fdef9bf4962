import QueryTemplate.Json.Writer
import QueryTemplate.Proofs.JsonArrays
import QueryTemplate.Proofs.JsonParts
import QueryTemplate.Proofs.StringLiteral

/-! JSON texts, read and written as the grammar has it.

The reader gives the value that a text stands for, however it is spelled. What the writers write, on
one line or on several, stands for the value that they are given, provided that its atoms do.
-/

set_option autoImplicit false

namespace QueryTemplate.Json

variable {means : Meaning} {sort : Atom → Prop} {depth : Nat} {text written : Text} {json : Json}

/-! ## Reading -/

section

variable {α σ : Type} {reader : Reader α} {x : α} {take : σ → Text → Reader σ}
  {before between after : σ} {parts : List Text}

theorem Place.padded (place : Place) (reads : Reads reader place.written x) :
    Padded reader place.text x :=
  .mk place.leading reads place.trailing

theorem Takes.member (member : Member)
    (taken : ∀ rest, numberEnds rest →
      take before member.name (member.value ++ rest) = .ok (between, rest))
    (later : Takes take between parts after) : Takes take before (member.text :: parts) after :=
  .cons member.apart member.spelled taken member.trailing later

theorem Member.colon_value (member : Member) (rest : Text) :
    colon (member.value ++ rest) = .ok (member.before ++ (member.written ++ rest)) := by
  have opened : member.value ++ rest =
      member.between ++ ':' :: (member.before ++ (member.written ++ rest)) := by
    simp [value]
  have solid : ∀ behind, skipBlank (':' :: behind) = ':' :: behind := fun _ => rfl
  rw [opened, colon, skipBlank_append member.behindKey, solid]
  rfl

end

theorem reads_array {items : List Json} {inside : Text}
    (body : ∀ rest, listBody (readValue depth) (inside ++ rest) = .ok (items, rest)) :
    Reads (readValue (depth + 1)) ('[' :: inside) (.array items) where
  opens := rfl
  read rest _ := by
    have opened : readValue (depth + 1) ('[' :: inside ++ rest) =
        (listBody (readValue depth) (inside ++ rest)).map
          fun found => (.array found.1, found.2) := rfl
    rw [opened, body]
    rfl

theorem reads_object {members : List (Text × Json)} {inside : Text}
    (body : ∀ rest,
      objectBody (takeMember (readValue depth)) [] (inside ++ rest) = .ok (members, rest)) :
    Reads (readValue (depth + 1)) ('{' :: inside) (.object members) where
  opens := rfl
  read rest _ := by
    have opened : readValue (depth + 1) ('{' :: inside ++ rest) =
        (objectBody (takeMember (readValue depth)) [] (inside ++ rest)).map
          fun found => (.object found.1, found.2) := rfl
    rw [opened, body]
    rfl

theorem takes_members {members : List Member}
    (each : ∀ member ∈ members, Reads (readValue depth) member.written member.json)
    (before : List (Text × Json)) :
    Takes (takeMember (readValue depth)) before (members.map Member.text)
      (before ++ members.map Member.entry) := by
  induction members generalizing before with
  | nil =>
    rw [List.map_nil, List.map_nil, List.append_nil]
    exact .nil before
  | cons member members ih =>
    obtain ⟨first, others⟩ := List.forall_mem_cons.mp each
    have taken : ∀ rest, numberEnds rest →
        takeMember (readValue depth) before member.name (member.value ++ rest) =
          .ok (before ++ [member.entry], rest) := by
      intro rest ends
      have found : readValue depth (member.before ++ (member.written ++ rest)) =
          .ok (member.json, rest) :=
        (readValue_append member.leading depth _).trans (first.read rest ends)
      simp only [takeMember, member.colon_value, found, bind, Except.bind]
      rfl
    have later := ih others (before ++ [member.entry])
    rw [List.append_assoc] at later
    exact .member member taken later

/-- A value is read from every spelling, if no more brackets are open at once than may be. -/
theorem Spells.reads (spells : Spells NumberText.Means written json)
    (built : BuiltOf sort depth json) : Reads (readValue depth) written json := by
  induction spells generalizing depth with
  | atom spelled => exact reads_readValue spelled.reads depth
  | array places _ blank ih =>
    cases built with
    | @array depth _ each =>
      have padded : List.Forall₂ (Padded (readValue depth)) (places.map Place.text)
          (places.map Place.json) := by
        rw [List.forall₂_map_left_iff, List.forall₂_map_right_iff, List.forall₂_same]
        exact fun place member =>
          place.padded (ih place member (each _ (List.mem_map_of_mem member)))
      refine reads_array fun rest => ?_
      rw [List.append_assoc, List.append_assoc]
      exact listBody_spread padded blank rest
  | object members _ blank ih =>
    cases built with
    | object each =>
      have takes := takes_members
        (fun entry member => ih entry member (each _ (List.mem_map_of_mem member))) []
      refine reads_object fun rest => ?_
      rw [List.append_assoc, List.append_assoc]
      exact objectBody_spread takes blank rest

theorem parse_of_stands (stands : Stands NumberText.Means text json)
    (built : BuiltOf sort depthLimit json) : parse text = .ok json := by
  obtain ⟨place, rfl, rfl, spells⟩ := stands
  exact parse_of_padded (place.padded (spells.reads built))

/-! ## Writing -/

theorem quad_hexPair {n : Nat} (small : n < 32) : Quad ('0' :: '0' :: hexPair n) n := by
  have high := Inline.hexDigit?_digitChar (Nat.mod_lt (n / 16) (by decide : 0 < 16))
  have low := Inline.hexDigit?_digitChar (Nat.mod_lt n (by decide : 0 < 16))
  have value : ((0 * 16 + 0) * 16 + n / 16 % 16) * 16 + n % 16 = n := by omega
  have quad : Quad ('0' :: '0' :: hexPair n) (((0 * 16 + 0) * 16 + n / 16 % 16) * 16 + n % 16) :=
    .mk rfl rfl high low
  rwa [value] at quad

theorem spelledChar_writtenChar (c : Char) : SpelledChar (writtenChar c) c := by
  unfold writtenChar
  split
  next quotes => rcases quotes with rfl | rfl <;> exact .letter (by decide)
  next ordinary =>
    split
    next backspace => exact backspace ▸ .letter (by decide)
    split
    next tab => exact tab ▸ .letter (by decide)
    split
    next newline => exact newline ▸ .letter (by decide)
    split
    next formFeed => exact formFeed ▸ .letter (by decide)
    split
    next carriageReturn => exact carriageReturn ▸ .letter (by decide)
    split
    next control => exact .unit (quad_hexPair control)
    next printable =>
      obtain ⟨noQuote, noBackslash⟩ := not_or.mp ordinary
      exact .plain noQuote noBackslash printable

theorem spelledText_written (text : Text) : SpelledText (text.flatMap writtenChar) text := by
  induction text with
  | nil => exact .nil
  | cons c text ih => exact .cons (spelledChar_writtenChar c) ih

/-- The atom is written as the grammar has it. -/
def Legible (means : Meaning) (a : Atom) : Prop := SpelledAtom means (writtenAtom a) a

theorem legible_null : Legible means .null := .null

theorem legible_boolean (b : Bool) : Legible means (.boolean b) := by
  cases b with
  | true => exact .yes
  | false => exact .no

theorem legible_string (text : Text) : Legible means (.string text) :=
  .string (spelledText_written text)

theorem legible_integer (keeps : KeepsIntegers means) {n : Int} (fits : Fits n) :
    Legible means (.number (.integer n)) :=
  .number (spelledNumber_signedDecimal n) (keeps fits)

theorem builtOf_ofString (text : String) : BuiltOf (Legible means) depth (.ofString text) :=
  .atom depth (legible_string text.toList)

theorem builtOf_strings (texts : List String) :
    BuiltOf (Legible means) (depth + 1) (.array (texts.map .ofString)) := by
  refine .array ?_
  rw [List.forall_mem_map]
  exact fun text _ => builtOf_ofString text

/-- Items behind equal blanks are spelled if each of them is. -/
theorem Spells.items {ι : Type} {xs : List ι} {value : ι → Json} {write : ι → Text}
    {gap blanks : Text} (apart : Blank gap) (each : ∀ x ∈ xs, Spells means (write x) (value x))
    (blank : Blank blanks) :
    Spells means ('[' :: (Text.join [','] (xs.map fun x => gap ++ write x) ++ (blanks ++ [']'])))
      (.array (xs.map value)) := by
  let place (x : ι) : Place :=
    { before := gap, written := write x, after := [], json := value x, leading := apart,
      trailing := blank_nil }
  have texts : (xs.map place).map Place.text = xs.map fun x => gap ++ write x := by
    simp [place, Place.text]
  have values : (xs.map place).map Place.json = xs.map value := by
    simp [place, Function.comp_def]
  have spells := Spells.array (xs.map place) (List.forall_mem_map.mpr each) blank
  rwa [texts, values] at spells

/-- The same for members, whose names are written as strings. -/
theorem Spells.members {members : List (Text × Json)} {write : Json → Text}
    {gap lead blanks : Text} (apart : Blank gap) (leading : Blank lead)
    (each : ∀ entry ∈ members, Spells means (write entry.2) entry.2) (blank : Blank blanks) :
    Spells means
      ('{' :: (Text.join [','] (members.map fun entry =>
        gap ++ (writtenString entry.1 ++ ':' :: (lead ++ write entry.2))) ++ (blanks ++ ['}'])))
      (.object members) := by
  let member (entry : Text × Json) : Member :=
    { before := lead, written := write entry.2, after := [], json := entry.2, leading := leading,
      trailing := blank_nil, gap := gap, key := entry.1.flatMap writtenChar, name := entry.1,
      between := [], apart := apart, spelled := spelledText_written entry.1, behindKey := blank_nil }
  have texts : (members.map member).map Member.text = members.map fun entry =>
      gap ++ (writtenString entry.1 ++ ':' :: (lead ++ write entry.2)) := by
    simp [member, Member.text, Member.value, writtenString]
  have values : (members.map member).map Member.entry = members := by
    simp [member, Member.entry, Function.comp_def]
  have spells := Spells.object (members.map member) (List.forall_mem_map.mpr each) blank
  rwa [texts, values] at spells

/-! ## On one line -/

theorem compactItems_eq (items : List Json) : compactItems items = items.map compact := by
  induction items with
  | nil => rfl
  | cons item items ih => rw [compactItems, ih, List.map_cons]

theorem compactMembers_eq (members : List (Text × Json)) :
    compactMembers members =
      members.map fun entry => writtenString entry.1 ++ ':' :: compact entry.2 := by
  induction members with
  | nil => rfl
  | cons entry members ih => rw [compactMembers, ih, List.map_cons]

theorem BuiltOf.spells_compact (built : BuiltOf (Legible means) depth json) :
    Spells means json.compact json := by
  induction built with
  | atom _ kept => exact .atom kept
  | array _ ih =>
    rw [compact, compactItems_eq]
    simpa using Spells.items blank_nil ih blank_nil
  | object _ ih =>
    rw [compact, compactMembers_eq]
    exact .members blank_nil blank_nil ih blank_nil

/-! ## On several lines -/

theorem blank_newLine (level : Nat) : Blank (newLine level) := by
  intro c member
  rcases List.mem_cons.mp member with rfl | indentation
  · rfl
  · obtain rfl := List.eq_of_mem_replicate indentation
    rfl

/-- Parts between brackets are parts between commas, each behind a line of its own. -/
theorem block_map {α : Type} (level : Nat) (opening closing : Char) (write : α → Text) {xs : List α}
    (present : xs ≠ []) :
    block level opening closing (xs.map write) =
      opening :: (Text.join [','] (xs.map fun x => newLine (level + 1) ++ write x) ++
        (newLine level ++ [closing])) := by
  cases xs with
  | nil => exact absurd rfl present
  | cons x xs => simp [block, Text.join_cons, List.flatMap_map]

theorem prettyItems_eq (level : Nat) (items : List Json) :
    prettyItems level items = items.map (prettyAt level) := by
  induction items with
  | nil => rfl
  | cons item items ih => rw [prettyItems, ih, List.map_cons]

theorem prettyMembers_eq (level : Nat) (members : List (Text × Json)) :
    prettyMembers level members =
      members.map fun entry => writtenString entry.1 ++ ':' :: ' ' :: prettyAt level entry.2 := by
  induction members with
  | nil => rfl
  | cons entry members ih => rw [prettyMembers, ih, List.map_cons]

theorem BuiltOf.spells_prettyAt (built : BuiltOf (Legible means) depth json) (level : Nat) :
    Spells means (prettyAt level json) json := by
  induction built generalizing level with
  | atom _ kept => exact .atom kept
  | @array depth items _ ih =>
    rw [prettyAt, prettyItems_eq]
    cases items with
    | nil => exact .array [] (fun _ member => absurd member List.not_mem_nil) blank_nil
    | cons item items =>
      rw [block_map _ _ _ _ (List.cons_ne_nil _ _)]
      simpa using Spells.items (blank_newLine (level + 1))
        (fun item member => ih item member (level + 1)) (blank_newLine level)
  | @object depth members _ ih =>
    rw [prettyAt, prettyMembers_eq]
    cases members with
    | nil => exact .object [] (fun _ member => absurd member List.not_mem_nil) blank_nil
    | cons entry members =>
      have space : Blank [' '] := List.forall_mem_singleton.mpr rfl
      rw [block_map _ _ _ _ (List.cons_ne_nil _ _)]
      exact .members (blank_newLine (level + 1)) space
        (fun entry member => ih entry member (level + 1)) (blank_newLine level)

/-- A writer writes texts of the grammar. -/
def Writes (means : Meaning) (write : Json → Text) : Prop :=
  ∀ {depth json}, BuiltOf (Legible means) depth json → Stands means (write json) json

theorem writes_compact : Writes means compact := fun built => built.spells_compact.stands

theorem writes_pretty : Writes means pretty := fun built => (built.spells_prettyAt 0).stands

/-- What is laid out is found again, also with blanks behind it. -/
theorem BuiltOf.parse_pretty (built : BuiltOf (Legible NumberText.Means) depthLimit json)
    {blanks : Text} (blank : Blank blanks) : parse (json.pretty ++ blanks) = .ok json :=
  have stands : Stands NumberText.Means (json.pretty ++ blanks) json :=
    ⟨⟨[], json.pretty, blanks, json, blank_nil, blank⟩, rfl, rfl, built.spells_prettyAt 0⟩
  parse_of_stands stands built

end QueryTemplate.Json
