import QueryTemplate.Json.Reader
import QueryTemplate.Proofs.IntegerText

/-! The parts of JSON values.

Whatever the reader of values gives is made of what the reader of atoms gives, with no more brackets
open at once than the reader was allowed.
-/

set_option autoImplicit false

namespace QueryTemplate

section

variable {ε α β : Type}

theorem exists_of_map_eq_ok {result : Except ε α} {f : α → β} {y : β}
    (mapped : result.map f = .ok y) : ∃ x, result = .ok x ∧ f x = y := by
  cases result with
  | error e => cases mapped
  | ok x => exact ⟨x, rfl, Except.ok.inj mapped⟩

theorem exists_of_bind_eq_ok {result : Except ε α} {f : α → Except ε β} {y : β}
    (bound : result.bind f = .ok y) : ∃ x, result = .ok x ∧ f x = .ok y := by
  cases result with
  | error e => cases bound
  | ok x => exact ⟨x, rfl, bound⟩

end

namespace Json

/-! ## Occurrence -/

/-- The value itself, or what stands anywhere in it. -/
inductive PartOf (part : Json) : Json → Prop where
  | whole : PartOf part part
  | item {items : List Json} {item : Json} (member : item ∈ items) (inner : PartOf part item) :
    PartOf part (.array items)
  | member {members : List (Text × Json)} {entry : Text × Json} (member : entry ∈ members)
    (inner : PartOf part entry.2) : PartOf part (.object members)

/-- A value made of atoms of a sort, with at most so many brackets open at once. -/
inductive BuiltOf (sort : Atom → Prop) : Nat → Json → Prop where
  | atom {a : Atom} (depth : Nat) (kept : sort a) : BuiltOf sort depth (.atom a)
  | array {depth : Nat} {items : List Json} (each : ∀ item ∈ items, BuiltOf sort depth item) :
    BuiltOf sort (depth + 1) (.array items)
  | object {depth : Nat} {members : List (Text × Json)}
    (each : ∀ entry ∈ members, BuiltOf sort depth entry.2) :
    BuiltOf sort (depth + 1) (.object members)

variable {sort : Atom → Prop} {depth : Nat} {json : Json}

theorem BuiltOf.mono {other : Atom → Prop} (built : BuiltOf sort depth json)
    (wider : ∀ a, sort a → other a) : BuiltOf other depth json := by
  induction built with
  | atom depth kept => exact .atom depth (wider _ kept)
  | array _ ih => exact .array ih
  | object _ ih => exact .object ih

theorem BuiltOf.of_partOf {a : Atom} (built : BuiltOf sort depth json)
    (part : PartOf (.atom a) json) : sort a := by
  induction built with
  | atom _ kept =>
    cases part
    exact kept
  | array _ ih =>
    cases part with
    | item member inner => exact ih _ member inner
  | object _ ih =>
    cases part with
    | member member inner => exact ih _ member inner

/-! ## What readers give -/

variable {α σ : Type} {text rest : Text}

/-- What the reader of an item gives, the reader of a list gives of all items. -/
theorem forall_mem_of_items {item : Reader α} {good : α → Prop}
    (each : ∀ text x rest, item text = .ok (x, rest) → good x) {bound : Nat} {first : Bool}
    {xs : List α} (read : items item bound first text = .ok (xs, rest)) : ∀ x ∈ xs, good x := by
  induction bound generalizing first text xs rest with
  | zero => cases read
  | succ bound ih =>
    obtain ⟨_ | ahead, _, read⟩ := exists_of_bind_eq_ok read
    · cases read
      exact fun _ member => absurd member List.not_mem_nil
    · obtain ⟨⟨head, behind⟩, found, read⟩ := exists_of_bind_eq_ok read
      obtain ⟨⟨tail, last⟩, later, read⟩ := exists_of_bind_eq_ok read
      cases read
      exact List.forall_mem_cons.mpr ⟨each _ _ _ found, ih later⟩

/-- What taking a member preserves, reading an object preserves. -/
theorem of_members {take : σ → Text → Reader σ} (good : σ → Prop)
    (step : ∀ before name text after rest, good before →
      take before name text = .ok (after, rest) → good after)
    {bound : Nat} {first : Bool} {before after : σ} (start : good before)
    (read : members take bound first before text = .ok (after, rest)) : good after := by
  induction bound generalizing first before text with
  | zero => cases read
  | succ bound ih =>
    obtain ⟨_ | ⟨name, ahead⟩, _, read⟩ := exists_of_bind_eq_ok read
    · cases read
      exact start
    · obtain ⟨⟨between, behind⟩, taken, read⟩ := exists_of_bind_eq_ok read
      exact ih (step _ _ _ _ _ start taken) read

def takeMember (value : Reader Json) (members : List (Text × Json)) (name : Text) :
    Reader (List (Text × Json)) := fun rest => do
  let rest ← colon rest
  let (value, rest) ← value rest
  .ok (members ++ [(name, value)], rest)

theorem readValue_cases (read : readValue depth text = .ok (json, rest)) :
    (∃ a, readAtom (skipBlank text) = .ok (a, rest) ∧ json = .atom a) ∨
    (∃ inner behind items, depth = inner + 1 ∧ skipBlank text = '[' :: behind ∧
      listBody (readValue inner) behind = .ok (items, rest) ∧ json = .array items) ∨
    ∃ inner behind members, depth = inner + 1 ∧ skipBlank text = '{' :: behind ∧
      objectBody (takeMember (readValue inner)) [] behind = .ok (members, rest) ∧
      json = .object members := by
  rw [readValue.eq_def] at read
  split at read
  next behind starts =>
    cases depth with
    | zero => cases read
    | succ inner =>
      obtain ⟨⟨items, last⟩, found, same⟩ := exists_of_map_eq_ok read
      cases same
      exact .inr (.inl ⟨inner, behind, items, rfl, starts, found, rfl⟩)
  next behind starts =>
    cases depth with
    | zero => cases read
    | succ inner =>
      obtain ⟨⟨members, last⟩, found, same⟩ := exists_of_map_eq_ok read
      cases same
      exact .inr (.inr ⟨inner, behind, members, rfl, starts, found, rfl⟩)
  next =>
    obtain ⟨⟨a, last⟩, found, same⟩ := exists_of_map_eq_ok read
    cases same
    exact .inl ⟨a, found, rfl⟩

def Readable (a : Atom) : Prop := ∃ text rest, readAtom text = .ok (a, rest)

theorem builtOf_of_readValue (read : readValue depth text = .ok (json, rest)) :
    BuiltOf Readable depth json := by
  induction depth using Nat.strongRecOn generalizing text json rest with
  | ind depth ih =>
    rcases readValue_cases read with ⟨a, found, rfl⟩ | ⟨inner, behind, items, rfl, _, found, rfl⟩ |
      ⟨inner, behind, members, rfl, _, found, rfl⟩
    · exact .atom depth ⟨_, _, found⟩
    · exact .array (forall_mem_of_items (fun _ _ _ => ih inner (Nat.lt_succ_self inner)) found)
    · have built : ∀ entry ∈ members, BuiltOf Readable inner entry.2 := by
        refine of_members (fun members => ∀ entry ∈ members, BuiltOf Readable inner entry.2) ?_
          (fun _ member => absurd member List.not_mem_nil) found
        intro before name text after rest earlier taken
        obtain ⟨ahead, _, taken⟩ := exists_of_bind_eq_ok taken
        obtain ⟨⟨value, last⟩, valued, taken⟩ := exists_of_bind_eq_ok taken
        cases taken
        refine List.forall_mem_append.mpr ⟨earlier, fun entry member => ?_⟩
        obtain rfl := List.mem_singleton.mp member
        exact ih inner (Nat.lt_succ_self inner) valued
      exact .object built

theorem builtOf_of_parse (parsed : parse text = .ok json) : BuiltOf Readable depthLimit json := by
  unfold parse readAll at parsed
  cases read : readValue depthLimit text with
  | error fault => simp [read, bind, Except.bind, Except.mapError] at parsed
  | ok result =>
    obtain ⟨found, rest⟩ := result
    have built := builtOf_of_readValue read
    simp only [read, bind, Except.bind] at parsed
    split at parsed
    next =>
      obtain rfl := Except.ok.inj parsed
      exact built
    next => cases parsed

/-! ## Integers -/

variable {n : Int} {negative : Bool} {number : NumberText}

theorem fits_of_integer? (kept : number.integer? negative = some n) : Fits n := by
  unfold NumberText.integer? at kept
  have half : Nat.pow 2 63 = 9223372036854775808 := rfl
  have whole : Nat.pow 2 64 = 18446744073709551616 := rfl
  rw [half, whole] at kept
  rw [fits_iff]
  split at kept
  next =>
    dsimp only at kept
    split at kept <;> split at kept
    all_goals
      cases kept
      try omega
  next => cases kept

theorem fits_of_read (read : number.read negative text = .ok (.integer n, rest)) : Fits n := by
  unfold NumberText.read at read
  split at read
  next m kept =>
    cases read
    exact fits_of_integer? kept
  next =>
    dsimp only at read
    split at read
    next =>
      split at read
      · cases read
      · cases read
    next =>
      split at read
      · cases read
      · cases read

theorem fits_of_numeral (read : numeral text = .ok (.integer n, rest)) : Fits n := by
  unfold numeral at read
  split at read
  all_goals
    obtain ⟨⟨number, behind⟩, _, read⟩ := exists_of_bind_eq_ok read
    exact fits_of_read read

theorem numeral_of_readAtom {found : Numeral} (read : readAtom text = .ok (.number found, rest)) :
    numeral text = .ok (found, rest) := by
  unfold readAtom at read
  split at read
  case h_1 => cases read
  case h_6 =>
    split at read
    · obtain ⟨⟨other, last⟩, found, same⟩ := exists_of_map_eq_ok read
      cases same
      exact found
    · cases read
  all_goals
    -- Words and strings are no numbers.
    obtain ⟨_, _, same⟩ := exists_of_map_eq_ok read
    cases same

theorem fits_of_parse (parsed : parse text = .ok json)
    (part : PartOf (.number (.integer n)) json) : Fits n := by
  obtain ⟨_, _, read⟩ := (builtOf_of_parse parsed).of_partOf part
  exact fits_of_numeral (numeral_of_readAtom read)

end Json

end QueryTemplate
