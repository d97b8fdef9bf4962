import QueryTemplate.Command.Argument
import QueryTemplate.Proofs.SpelledPieces

/-! Values of JSON arrays.

An array denotes the list of what its items denote, with one more bracket open at once. If an item
cannot be read while those before it denote values, the array cannot be read, for the same reason.
-/

set_option autoImplicit false

namespace QueryTemplate

def Value.ofAtom : Json.Atom → Value
  | .null => .null
  | .boolean b => .boolean b
  | .number (.integer n) => .integer n
  | .number (.float x) => .float x
  | .string text => .string text

theorem Value.ofJson_atom (a : Json.Atom) : Value.ofJson (.atom a) = .ok (.ofAtom a) := by
  rcases a with _ | _ | (_ | _) | _ <;> rfl

theorem Value.ofWord_json {kind : Kind} (other : kind ≠ .string) (raw : Text) :
    ofWord kind raw =
      match Json.parse raw with
      | .error source => .error (.notJson kind raw source)
      | .ok json => (ofJson json).mapError (.noValue kind raw) := by
  unfold ofWord
  split
  next => exact absurd rfl other
  next => rfl

namespace Json

variable {α : Type} {reader item : Reader α} {depth : Nat} {written text : Text} {value : Value}
  {values : List Value} {parts earlier later : List Text} {cause : Cause}

/-! ## What is denoted -/

/-- The value of what is read from the text, with at most `depth` brackets open at once. -/
def Denotes (depth : Nat) (text : Text) (value : Value) : Prop :=
  ∃ json, Padded (readValue depth) text json ∧ Value.ofJson json = .ok value

theorem readValue_append {blanks : Text} (blank : Blank blanks) (depth : Nat) (rest : Text) :
    readValue depth (blanks ++ rest) = readValue depth rest := by
  rw [readValue.eq_def, readValue.eq_def, skipBlank_append blank]

theorem skipBlank_blank {blanks : Text} (blank : Blank blanks) : skipBlank blanks = [] := by
  simpa [skipBlank] using skipBlank_append blank []

theorem numberEnds_blank {blanks : Text} (blank : Blank blanks) : numberEnds blanks := by
  have ends : numberEnds [] := rfl
  simpa using numberEnds_append blank ends

theorem readAll_of_padded {x : α} (skips : ∀ {blanks : Text}, Blank blanks → ∀ rest,
      reader (blanks ++ rest) = reader rest)
    (padded : Padded reader text x) : readAll reader text = .ok x := by
  cases padded with
  | mk leading reads trailing =>
    rw [readAll, skips leading, reads.read _ (numberEnds_blank trailing)]
    simp only [bind, Except.bind, skipBlank_blank trailing]
    rfl

theorem parse_of_padded {json : Json} (padded : Padded (readValue depthLimit) text json) :
    parse text = .ok json :=
  readAll_of_padded (fun blank => readValue_append blank depthLimit) padded

theorem Denotes.ofWord {kind : Kind} (denotes : Denotes depthLimit text value)
    (other : kind ≠ .string) : Value.ofWord kind text = .ok value := by
  obtain ⟨json, padded, meant⟩ := denotes
  simp only [Value.ofWord_json other, parse_of_padded padded, meant]
  rfl

theorem Denotes.pad {before after : Text} (denotes : Denotes depth text value)
    (leading : Blank before) (trailing : Blank after) :
    Denotes depth (before ++ (text ++ after)) value := by
  obtain ⟨json, padded, meant⟩ := denotes
  refine ⟨json, ?_, meant⟩
  cases padded with
  | @mk start written rest _ first reads last =>
    have same : before ++ ((start ++ (written ++ rest)) ++ after) =
        (before ++ start) ++ (written ++ (rest ++ after)) := by simp
    rw [same]
    exact .mk (List.forall_mem_append.mpr ⟨leading, first⟩) reads
      (List.forall_mem_append.mpr ⟨last, trailing⟩)

theorem reads_readValue {a : Atom} (reads : Reads readAtom written a) (depth : Nat) :
    Reads (readValue depth) written (.atom a) where
  opens := reads.opens
  read rest ends := by
    have read := reads.read rest ends
    rw [readValue.eq_def, skipBlank_of_opensItem (opensItem_append reads.opens rest)]
    split
    next bracket =>
      rw [bracket] at read
      cases read
    next brace =>
      rw [brace] at read
      cases read
    next => rw [read]; rfl

theorem Denotes.atom {a : Atom} (reads : Reads readAtom written a) (depth : Nat) :
    Denotes depth written (.ofAtom a) :=
  ⟨.atom a, (reads_readValue reads depth).padded, Value.ofJson_atom a⟩

theorem denotes_map {ι : Type} {items : List ι} {spell : ι → Text} {mean : ι → Value}
    (each : ∀ item ∈ items, Denotes depth (spell item) (mean item)) :
    List.Forall₂ (Denotes depth) (items.map spell) (items.map mean) := by
  rw [List.forall₂_map_left_iff, List.forall₂_map_right_iff, List.forall₂_same]
  exact each

theorem exists_jsons (denote : List.Forall₂ (Denotes depth) parts values) :
    ∃ jsons, List.Forall₂ (Padded (readValue depth)) parts jsons ∧
      Value.ofJsonItems jsons = .ok values := by
  induction denote with
  | nil => exact ⟨[], .nil, rfl⟩
  | cons first _ ih =>
    obtain ⟨json, padded, meant⟩ := first
    obtain ⟨jsons, more, rest⟩ := ih
    refine ⟨json :: jsons, .cons padded more, ?_⟩
    simp only [Value.ofJsonItems, meant, rest, bind, Except.bind]

def bracketed (inside : Text) : Text := '[' :: inside ++ [']']

theorem readValue_bracketed (depth : Nat) (inside rest : Text) :
    readValue (depth + 1) (bracketed inside ++ rest) =
      (listBody (readValue depth) (inside ++ ']' :: rest)).map
        fun (items, rest) => (.array items, rest) := by
  have opened : bracketed inside ++ rest = '[' :: (inside ++ ']' :: rest) := by simp [bracketed]
  rw [opened]
  rfl

theorem Denotes.list (denote : List.Forall₂ (Denotes depth) parts values) :
    Denotes (depth + 1) (bracketed (Text.join [','] parts)) (.list values) := by
  obtain ⟨jsons, padded, meant⟩ := exists_jsons denote
  refine ⟨.array jsons, Reads.padded ⟨rfl, ?_⟩, by simp [Value.ofJson, meant, Except.map]⟩
  intro rest _
  rw [readValue_bracketed, listBody_padded padded]
  rfl

theorem Denotes.empty {blanks : Text} (blank : Blank blanks) (depth : Nat) :
    Denotes (depth + 1) (bracketed blanks) (.list []) := by
  refine ⟨.array [], Reads.padded ⟨rfl, ?_⟩, rfl⟩
  intro rest _
  rw [readValue_bracketed, listBody, items_append blank, items_done (nextItem_done true rest)]
  rfl

/-! ## What cannot be read -/

/-- The reader meets a fault inside the text, whatever comes behind it. -/
structure Faults (reader : Reader α) (written : Text) (cause : Cause) : Prop where
  opens : opensItem written
  fault : ∀ rest, ∃ fault, reader (written ++ rest) = .error fault ∧ fault.cause = cause

/-- The same with blanks in front. What stands behind the fault does not matter. -/
inductive Stumbles (reader : Reader α) : Text → Cause → Prop where
  | mk {before written : Text} {cause : Cause} (leading : Blank before)
    (faults : Faults reader written cause) : Stumbles reader (before ++ written) cause

theorem Faults.stumbles (faults : Faults reader written cause) : Stumbles reader written cause := by
  have whole : Stumbles reader ([] ++ written) cause := .mk blank_nil faults
  exact whole

theorem Stumbles.opens (stumbles : Stumbles reader text cause) : opensItem (skipBlank text) := by
  cases stumbles with
  | mk leading faults =>
    rw [skipBlank_append_opensItem leading faults.opens]
    exact faults.opens

theorem Stumbles.pad {before : Text} (stumbles : Stumbles reader text cause)
    (leading : Blank before) (after : Text) :
    Stumbles reader (before ++ (text ++ after)) cause := by
  cases stumbles with
  | @mk start written _ first faults =>
    have same : before ++ ((start ++ written) ++ after) =
        (before ++ start) ++ (written ++ after) := by simp
    have blank : Blank (before ++ start) := List.forall_mem_append.mpr ⟨leading, first⟩
    rw [same]
    refine .mk blank ⟨opensItem_append faults.opens after, ?_⟩
    intro rest
    rw [List.append_assoc]
    exact faults.fault (after ++ rest)

/-- The first item with a fault ends the reading. -/
theorem exists_items_fault {xs : List α} (reads : List.Forall₂ (Padded item) earlier xs)
    (stumbles : Stumbles item text cause) (later : List Text) (bound : Nat) (rest : Text) :
    ∃ fault, items item (earlier.length + (bound + 1)) false
        ((earlier ++ text :: later).flatMap ([','] ++ ·) ++ rest) = .error fault ∧
      fault.cause = cause := by
  cases stumbles with
  | @mk before written _ leading faults =>
    obtain ⟨fault, failed, sort⟩ := faults.fault (later.flatMap ([','] ++ ·) ++ rest)
    have behind : (earlier ++ (before ++ written) :: later).flatMap ([','] ++ ·) ++ rest =
        earlier.flatMap ([','] ++ ·) ++
          ',' :: (before ++ (written ++ (later.flatMap ([','] ++ ·) ++ rest))) := by
      simp
    have opens := opensItem_append faults.opens (later.flatMap ([','] ++ ·) ++ rest)
    have next := nextItem_comma (skipBlank_append_opensItem leading opens) opens
    refine ⟨fault, ?_, sort⟩
    rw [behind, items_padded reads bound rfl, items_fault next failed]
    rfl

theorem exists_listBody_fault {xs : List α} (reads : List.Forall₂ (Padded item) earlier xs)
    (stumbles : Stumbles item text cause) (later : List Text) (rest : Text) :
    ∃ fault, listBody item (Text.join [','] (earlier ++ text :: later) ++ rest) = .error fault ∧
      fault.cause = cause := by
  obtain ⟨first, others, whole, opens⟩ : ∃ first others,
      earlier ++ text :: later = first :: others ∧ opensItem (skipBlank first) := by
    cases reads with
    | nil => exact ⟨text, later, rfl, stumbles.opens⟩
    | cons head _ => exact ⟨_, _, rfl, head.opens⟩
  obtain ⟨bound, opened⟩ := @exists_listBody_eq _ item _ opens others rest
  have split : (first :: others).length + (bound + 1) =
      earlier.length + ((later.length + 1 + bound) + 1) := by
    rw [← whole]
    simp only [List.length_append, List.length_cons]
    omega
  rw [whole, opened, split, ← whole]
  exact exists_items_fault reads stumbles later _ rest

/-- An array fails with its first item that cannot be read. -/
theorem Faults.list (denote : List.Forall₂ (Denotes depth) earlier values)
    (stumbles : Stumbles (readValue depth) text cause) (later : List Text) :
    Faults (readValue (depth + 1)) (bracketed (Text.join [','] (earlier ++ text :: later)))
      cause where
  opens := rfl
  fault rest := by
    obtain ⟨jsons, padded, _⟩ := exists_jsons denote
    obtain ⟨fault, failed, sort⟩ := exists_listBody_fault padded stumbles later (']' :: rest)
    refine ⟨fault, ?_, sort⟩
    rw [readValue_bracketed, failed]
    rfl

theorem exists_parse_error (stumbles : Stumbles (readValue depthLimit) text cause) :
    ∃ error, parse text = .error error ∧ error.cause = cause := by
  cases stumbles with
  | @mk before written _ leading faults =>
    obtain ⟨fault, failed, sort⟩ := faults.fault []
    rw [List.append_nil] at failed
    refine ⟨fault.within (before ++ written), ?_, sort⟩
    rw [parse, readAll, readValue_append leading, failed]
    rfl

theorem exists_notJson {kind : Kind} (stumbles : Stumbles (readValue depthLimit) text cause)
    (other : kind ≠ .string) :
    ∃ source, Value.ofWord kind text = .error (.notJson kind text source) ∧
      source.cause = cause := by
  obtain ⟨error, failed, sort⟩ := exists_parse_error stumbles
  exact ⟨error, by rw [Value.ofWord_json other, failed], sort⟩

end Json

end QueryTemplate
