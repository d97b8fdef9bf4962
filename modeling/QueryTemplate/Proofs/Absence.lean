import QueryTemplate.Proofs.First
import QueryTemplate.Proofs.Fragment
import QueryTemplate.Typed.DataType

/-! Typed data fail to bind only where something is absent.

The kind of a type and the value of a datum are found by two recursions over the type. They fit: a
datum that is there has a value of its kind, and one that is not has the null value, which no kind
accepts.
-/

set_option autoImplicit false

namespace QueryTemplate

namespace DataType

/-- Behind its handles and options the datum is nothing. -/
def Missing : (t : DataType) → t.carrier → Prop
  | shared t, x => t.Missing (Shared.target x)
  | optional _, none => True
  | optional t, some x => t.Missing x
  | _, _ => False

/-- The first of the items that are missing is the one at the position. -/
def FirstIn (t : DataType) (items : List t.carrier) (position : Nat) : Prop :=
  ∃ before item after, items = before ++ item :: after ∧ position = before.length ∧
    t.Missing item ∧ ∀ earlier ∈ before, ¬ t.Missing earlier

/-- Behind its handles and options the datum is a collection, and the first of its items that are
missing is the one at the position. -/
def FirstMissing : (t : DataType) → t.carrier → Nat → Prop
  | shared t, x, position => t.FirstMissing (Shared.target x) position
  | optional _, none, _ => False
  | optional t, some x, position => t.FirstMissing x position
  | list t, items, position => t.FirstIn items position
  | array t, items, position => t.FirstIn (Array.toList items) position
  | vector _ t, items, position => t.FirstIn (Vector.toList items) position
  | queue t, items, position => t.FirstIn (Std.Queue.toArray items).toList position
  | set t, items, position => t.FirstIn (Std.TreeSet.toList items) position
  | _, _, _ => False

/-- What binding a datum comes to, as far as absence decides it. -/
inductive Outcome (t : DataType) (x : t.carrier) : Except FormatError Text → Prop where
  | missing (nothing : t.Missing x) : Outcome t x (.error .null)
  | missingItem {position : Nat} (first : t.FirstMissing x position) :
    Outcome t x (.error (.element position .null))
  | bound {fragment : Text} (present : ¬ t.Missing x)
    (each : ∀ position, ¬ t.FirstMissing x position) : Outcome t x (.ok fragment)

/-! ## Items -/

variable {t : DataType}

/-- An item that is missing has the null value, any other a value of its class. -/
theorem item_missing_or_formatted {held : BindableItem t.carrier} (binds : t.item? = some held)
    (x : t.carrier) :
    (t.Missing x ∧ held.toValue x = .null) ∨
      (¬ t.Missing x ∧ ∃ text, (held.toValue x).formatItem held.element = .ok text) := by
  induction t with
  | shared t ih =>
    obtain ⟨inner, found, rfl⟩ := Option.map_eq_some_iff.mp binds
    exact ih found (Shared.target x)
  | optional t ih =>
    obtain ⟨inner, found, rfl⟩ := Option.map_eq_some_iff.mp binds
    match x with
    | none => exact .inl ⟨trivial, rfl⟩
    | some x => exact ih found x
  | list | array | vector | queue | set => cases binds
  | _ =>
    obtain rfl := Option.some.inj binds
    exact .inr ⟨id, _, rfl⟩

theorem formatElement_of_missing {held : BindableItem t.carrier} (binds : t.item? = some held)
    {x : t.carrier} (nothing : t.Missing x) :
    (held.toValue x).formatElement held.element = .error .null := by
  obtain ⟨_, isNull⟩ | ⟨present, _⟩ := item_missing_or_formatted binds x
  · rw [isNull]
    cases held.element <;> rfl
  · exact absurd nothing present

theorem exists_formatElement {held : BindableItem t.carrier} (binds : t.item? = some held)
    {x : t.carrier} (present : ¬ t.Missing x) :
    ∃ part, (held.toValue x).formatElement held.element = .ok part := by
  obtain ⟨nothing, _⟩ | ⟨_, text, formatted⟩ := item_missing_or_formatted binds x
  · exact absurd nothing present
  · exact ⟨_, Value.formatElement_eq_ok_iff.mpr ⟨text, formatted, rfl⟩⟩

/-! ## Collections -/

theorem firstIn_or_present (t : DataType) (items : List t.carrier) :
    (∃ position, t.FirstIn items position) ∨ ∀ item ∈ items, ¬ t.Missing item := by
  rcases all_or_first (¬ t.Missing ·) items with all | ⟨before, item, after, split, earlier, missing⟩
  · exact .inr all
  · exact .inl ⟨before.length, before, item, after, split, rfl, not_not.mp missing, earlier⟩

theorem FirstIn.unique {items : List t.carrier} {position other : Nat}
    (first : t.FirstIn items position) (again : t.FirstIn items other) : position = other := by
  obtain ⟨before, item, after, split, rfl, missing, earlier⟩ := first
  obtain ⟨start, another, rest, resplit, rfl, absent, previous⟩ := again
  have same : before = start := first_unique (split.symm.trans resplit) earlier
    (not_not.mpr missing) previous (not_not.mpr absent)
  rw [same]

variable {x : t.carrier} {result : Except FormatError Text}

/-- A collection binds to the list of the values of its items, whatever holds them. -/
theorem Outcome.of_items {u : DataType} {held : BindableItem u.carrier}
    (binds : u.item? = some held) (items : List u.carrier) (present : ¬ t.Missing x)
    (first : ∀ position, t.FirstMissing x position ↔ u.FirstIn items position) :
    t.Outcome x ((Value.list (items.map held.toValue)).format (.collection held.element)) := by
  rcases u.firstIn_or_present items with ⟨position, here⟩ | all
  · have missing := (first position).mpr here
    obtain ⟨before, item, after, rfl, rfl, nothing, earlier⟩ := here
    have failed : Value.formatElements held.element 0
        ((before ++ item :: after).map held.toValue) = .error (.element before.length .null) := by
      refine Value.formatElements_eq_error_iff.mpr
        ⟨before.map held.toValue, held.toValue item, after.map held.toValue, .null, by simp, ?_,
          formatElement_of_missing binds nothing, by simp⟩
      intro value member
      obtain ⟨other, among, rfl⟩ := List.mem_map.mp member
      exact exists_formatElement binds (earlier other among)
    rw [Value.format_list_eq_error failed]
    exact .missingItem missing
  · have none_missing : ∀ position, ¬ t.FirstMissing x position := by
      intro position here
      obtain ⟨before, item, after, rfl, _, nothing, _⟩ := (first position).mp here
      exact all item (by simp) nothing
    have each : ∀ value ∈ items.map held.toValue,
        ∃ part, value.formatElement held.element = .ok part := by
      intro value member
      obtain ⟨item, among, rfl⟩ := List.mem_map.mp member
      exact exists_formatElement binds (all item among)
    obtain ⟨parts, formatted⟩ := Value.exists_formatElements_iff.mpr each
    rw [Value.format, formatted]
    exact .bound present none_missing

/-! ## Data of any type -/

theorem Outcome.of_held {u : DataType} {y : u.carrier} (held : u.Outcome y result)
    (nothing : t.Missing x ↔ u.Missing y)
    (first : ∀ position, t.FirstMissing x position ↔ u.FirstMissing y position) :
    t.Outcome x result := by
  cases held with
  | missing missing => exact .missing (nothing.mpr missing)
  | missingItem here => exact .missingItem ((first _).mpr here)
  | bound present each =>
    exact .bound (mt nothing.mp present) fun position => mt (first position).mp (each position)

/-- Along the type: handles and options pass on what they hold, collections are judged by their
items, and any other datum is there. -/
theorem outcome_of_bindable? {held : Bindable t.carrier} (binds : t.bindable? = some held)
    (x : t.carrier) : t.Outcome x (@Argument.of _ held x).format := by
  induction t with
  | shared t ih =>
    obtain ⟨inner, found, rfl⟩ := Option.map_eq_some_iff.mp binds
    exact (ih found (Shared.target x)).of_held Iff.rfl fun _ => Iff.rfl
  | optional t ih =>
    obtain ⟨inner, found, rfl⟩ := Option.map_eq_some_iff.mp binds
    match x with
    | none =>
      -- The kind is that of what is not there, and null conforms to none.
      show (optional t).Outcome none (Value.null.format inner.kind)
      rw [Value.format_null]
      exact .missing trivial
    | some x => exact (ih found x).of_held Iff.rfl fun _ => Iff.rfl
  | list t =>
    obtain ⟨inner, found, rfl⟩ := Option.map_eq_some_iff.mp binds
    exact .of_items found x id fun _ => Iff.rfl
  | array t =>
    obtain ⟨inner, found, rfl⟩ := Option.map_eq_some_iff.mp binds
    exact .of_items found (Array.toList x) id fun _ => Iff.rfl
  | vector n t =>
    obtain ⟨inner, found, rfl⟩ := Option.map_eq_some_iff.mp binds
    exact .of_items found (Vector.toList x) id fun _ => Iff.rfl
  | queue t =>
    obtain ⟨inner, found, rfl⟩ := Option.map_eq_some_iff.mp binds
    exact .of_items found (Std.Queue.toArray x).toList id fun _ => Iff.rfl
  | set t =>
    obtain ⟨inner, found, rfl⟩ := Option.map_eq_some_iff.mp binds
    exact .of_items found (Std.TreeSet.toList x) id fun _ => Iff.rfl
  | _ =>
    obtain rfl := Option.some.inj binds
    exact .bound id fun _ => id

theorem FirstMissing.present {position : Nat} (first : t.FirstMissing x position) :
    ¬ t.Missing x := by
  induction t with
  | shared t ih => exact ih first
  | optional t ih =>
    match x with
    | none => cases first
    | some x => exact ih first
  | _ => exact id

theorem FirstMissing.unique {position other : Nat} (first : t.FirstMissing x position)
    (again : t.FirstMissing x other) : position = other := by
  induction t with
  | shared t ih => exact ih first again
  | optional t ih =>
    match x with
    | none => cases first
    | some x => exact ih first again
  | list | array | vector | queue | set => exact FirstIn.unique first again
  | _ => cases first

end DataType

/-- Typed data can only fail to bind by absence. The null error means that the datum itself is
absent, an error of an item that it is the first absent one of a collection; in every other case the
datum has a fragment. -/
theorem binding_fails_only_on_absence {t : DataType} {held : Bindable t.carrier}
    (binds : t.bindable? = some held) (x : t.carrier) :
    (∀ error, (@Argument.of _ held x).format = .error error →
      error = .null ∨ ∃ position, error = .element position .null) ∧
    ((@Argument.of _ held x).format = .error .null ↔ t.Missing x) ∧
    (∀ position source, (@Argument.of _ held x).format = .error (.element position source) ↔
      source = .null ∧ t.FirstMissing x position) ∧
    ((∃ fragment, (@Argument.of _ held x).format = .ok fragment) ↔
      ¬ t.Missing x ∧ ∀ position, ¬ t.FirstMissing x position) := by
  have outcome := DataType.outcome_of_bindable? binds x
  generalize (@Argument.of _ held x).format = result at outcome
  cases outcome with
  | missing nothing =>
    have no_item : ∀ position, ¬ t.FirstMissing x position :=
      fun _ first => first.present nothing
    refine ⟨?_, by simp [nothing], by simp [no_item], by simp [nothing]⟩
    rintro error ⟨⟩
    exact .inl rfl
  | @missingItem here first =>
    refine ⟨?_, by simp [first.present], ?_, ?_⟩
    · rintro error ⟨⟩
      exact .inr ⟨here, rfl⟩
    · intro position source
      constructor
      · rintro ⟨⟩
        exact ⟨rfl, first⟩
      · rintro ⟨rfl, again⟩
        rw [first.unique again]
    · refine ⟨nofun, ?_⟩
      rintro ⟨_, no_item⟩
      exact absurd first (no_item here)
  | @bound fragment present each =>
    exact ⟨nofun, by simp [present], by simp [each], by simp [present, each]⟩

/-- Items behind two options and a handle, in a list behind another of each. -/
def nestedType : DataType := .optional (.shared (.list (.optional (.shared .string))))

def nestedDatum (items : List (Option (Shared String))) : nestedType.carrier := some ⟨items⟩

theorem binding_fails_only_on_absence_nested :
    ∃ held : Bindable nestedType.carrier, nestedType.bindable? = some held ∧
      (@Argument.of _ held none).format = .error .null ∧
      (@Argument.of _ held (nestedDatum [some ⟨"\""⟩, none, none])).format =
        .error (.element 1 .null) ∧
      ∃ fragment, (@Argument.of _ held (nestedDatum [some ⟨"\""⟩, some ⟨""⟩])).format =
        .ok fragment := by
  refine ⟨_, rfl, ?_, ?_, ?_⟩
  · obtain ⟨_, nothing, _⟩ := binding_fails_only_on_absence (t := nestedType) rfl none
    exact nothing.mpr trivial
  · obtain ⟨_, _, item, _⟩ := binding_fails_only_on_absence (t := nestedType) rfl
      (nestedDatum [some ⟨"\""⟩, none, none])
    refine (item 1 .null).mpr ⟨rfl, [some ⟨"\""⟩], none, [none], rfl, rfl, trivial, ?_⟩
    rintro earlier member missing
    obtain rfl := List.mem_singleton.mp member
    exact missing
  · obtain ⟨_, _, _, fragment⟩ := binding_fails_only_on_absence (t := nestedType) rfl
      (nestedDatum [some ⟨"\""⟩, some ⟨""⟩])
    refine fragment.mpr ⟨id, ?_⟩
    rintro position ⟨before, item, after, split, _, missing, _⟩
    have among : item ∈ before ++ item :: after :=
      List.mem_append_right before List.mem_cons_self
    rw [← split] at among
    rcases List.mem_cons.mp among with rfl | last
    · exact missing
    · obtain rfl := List.mem_singleton.mp last
      exact missing

end QueryTemplate
