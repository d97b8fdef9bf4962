import QueryTemplate.Proofs.Fragment
import QueryTemplate.Proofs.Writing

/-! Which values conform to a kind, and what is said of those that do not.

What a kind refuses has one fault: the value is absent, its shape is wrong, or it is a list and the
fault is that of its first item at odds with the class.
-/

set_option autoImplicit false

namespace QueryTemplate

namespace ElementKind

def Takes : ElementKind → Value → Prop
  | string, value => ∃ text, value = .string text
  | scalar, value => value.IsScalar

inductive Refuses (element : ElementKind) : Value → FormatError → Prop where
  | null : Refuses element .null .null
  | nested (items : List Value) : Refuses element (.list items) (.nestedCollection (.collection element))
  | shape {value : Value} (present : value ≠ .null) (flat : ∀ items, value ≠ .list items)
    (misfit : ¬ element.Takes value) :
    Refuses element value (.kindMismatch (.single element) value.shape)

end ElementKind

namespace Kind

def Takes : Kind → Value → Prop
  | single element, value => element.Takes value
  | collection element, value => ∃ items, value = .list items ∧ ∀ item ∈ items, element.Takes item

/-- Whether a value is of the outer shape of a kind, whatever its items are. -/
def Shapes : Kind → Value → Prop
  | single element, value => element.Takes value
  | collection _, value => ∃ items, value = .list items

inductive Refuses : Kind → Value → FormatError → Prop where
  | null (kind : Kind) : Refuses kind .null .null
  | shape {kind : Kind} {value : Value} (present : value ≠ .null) (misfit : ¬ kind.Shapes value) :
    Refuses kind value (.kindMismatch kind value.shape)
  | element {element : ElementKind} {items : List Value} {position : Nat} {item : Value}
    {source : FormatError} (found : items[position]? = some item)
    (earlier : ∀ before < position, ∀ other, items[before]? = some other → element.Takes other)
    (refused : element.Refuses item source) :
    Refuses (.collection element) (.list items) (.element position source)

end Kind

/-- An error about a value as a whole, not about one of its items. -/
inductive FormatError.Outright : FormatError → Prop where
  | null : Outright .null
  | nestedCollection (kind : Kind) : Outright (.nestedCollection kind)
  | kindMismatch (expected : Kind) (found : String) : Outright (.kindMismatch expected found)

/-! ## Items -/

namespace Value

variable {element : ElementKind} {value : Value} {error : FormatError}

theorem exists_formatItem_iff : (∃ item, value.formatItem element = .ok item) ↔ element.Takes value := by
  cases element with
  | scalar => exact exists_formatItem_scalar_iff
  | string => cases value <;> simp [formatItem, ElementKind.Takes]

theorem formatItem_of_not_takes (present : value ≠ .null) (misfit : ¬ element.Takes value) :
    value.formatItem element = .error (.kindMismatch (.single element) value.shape) := by
  cases element with
  | string =>
    cases value with
    | null => exact absurd rfl present
    | string text => exact absurd ⟨text, rfl⟩ misfit
    | _ => rfl
  | scalar =>
    cases value with
    | null => exact absurd rfl present
    | boolean b => exact absurd (.boolean b) misfit
    | integer n => exact absurd (.integer n) misfit
    | float x => exact absurd (.float x) misfit
    | _ => rfl

theorem exists_formatElement_iff :
    (∃ part, value.formatElement element = .ok part) ↔ element.Takes value := by
  rw [← exists_formatItem_iff]
  constructor
  · rintro ⟨part, formatted⟩
    obtain ⟨inner, plain, _⟩ := formatElement_eq_ok_iff.mp formatted
    exact ⟨inner, plain⟩
  · rintro ⟨inner, plain⟩
    exact ⟨_, formatElement_eq_ok_iff.mpr ⟨inner, plain, rfl⟩⟩

theorem formatElement_of_refuses (refused : element.Refuses value error) :
    value.formatElement element = .error error := by
  cases refused with
  | null => cases element <;> rfl
  | nested items => rfl
  | shape present flat misfit =>
    rw [formatElement, formatItem_of_not_takes present misfit]
    · rfl
    · exact flat

theorem exists_refuses (misfit : ¬ element.Takes value) : ∃ error, element.Refuses value error := by
  by_cases present : value = .null
  · subst present
    exact ⟨_, .null⟩
  · by_cases nested : ∃ items, value = .list items
    · obtain ⟨items, rfl⟩ := nested
      exact ⟨_, .nested items⟩
    · exact ⟨_, .shape present (not_exists.mp nested) misfit⟩

theorem formatElement_eq_error_iff :
    value.formatElement element = .error error ↔ element.Refuses value error := by
  refine ⟨?_, formatElement_of_refuses⟩
  intro failed
  have misfit : ¬ element.Takes value := by
    rw [← exists_formatElement_iff]
    rintro ⟨part, formatted⟩
    rw [formatted] at failed
    cases failed
  obtain ⟨other, refused⟩ := exists_refuses misfit
  rw [formatElement_of_refuses refused] at failed
  exact Except.error.inj failed ▸ refused

/-! ## Collections -/

/-- The fault of a collection is that of its first item at odds with the class. -/
theorem formatElements_zero_eq_error_iff {items : List Value} :
    formatElements element 0 items = .error error ↔
      ∃ position item source, items[position]? = some item ∧
        (∀ before < position, ∀ other, items[before]? = some other → element.Takes other) ∧
        element.Refuses item source ∧ error = .element position source := by
  simp only [formatElements_eq_error_iff, exists_formatElement_iff, formatElement_eq_error_iff,
    Nat.zero_add]
  constructor
  · rintro ⟨before, item, after, source, rfl, earlier, refused, same⟩
    refine ⟨before.length, item, source, by simp, ?_, refused, same⟩
    intro position left other found
    rw [List.getElem?_append_left left] at found
    exact earlier other (List.mem_of_getElem? found)
  · rintro ⟨position, item, source, found, earlier, refused, same⟩
    obtain ⟨within, rfl⟩ := List.getElem?_eq_some_iff.mp found
    refine ⟨items.take position, _, items.drop (position + 1), source, ?_, ?_, refused, ?_⟩
    · simp
    · intro other member
      obtain ⟨before, found⟩ := List.mem_iff_getElem?.mp member
      rw [List.getElem?_take] at found
      split at found
      next left => exact earlier before left other found
      next => cases found
    · rw [same, List.length_take, Nat.min_eq_left (Nat.le_of_lt within)]

theorem exists_format_iff {kind : Kind} :
    (∃ fragment, value.format kind = .ok fragment) ↔ kind.Takes value := by
  cases kind with
  | single element => exact exists_formatItem_iff
  | collection element =>
    cases value with
    | list items =>
      have each : (∃ parts, formatElements element 0 items = .ok parts) ↔
          ∀ item ∈ items, ∃ part, item.formatElement element = .ok part := exists_formatElements_iff
      simp only [exists_formatElement_iff] at each
      simp only [Kind.Takes, list.injEq, exists_eq_left', ← each, format]
      cases formatElements element 0 items <;> simp [Except.map]
    | _ => simp [format, Kind.Takes]

theorem format_of_refuses {kind : Kind} (refused : kind.Refuses value error) :
    value.format kind = .error error := by
  cases refused with
  | null => exact format_null kind
  | shape present misfit =>
    cases kind with
    | single element => exact formatItem_of_not_takes present misfit
    | collection element =>
      cases value with
      | null => exact absurd rfl present
      | list items => exact absurd ⟨items, rfl⟩ misfit
      | _ => rfl
  | element found earlier refused =>
    exact format_list_eq_error
      (formatElements_zero_eq_error_iff.mpr ⟨_, _, _, found, earlier, refused, rfl⟩)

theorem refuses_of_format {kind : Kind} (failed : value.format kind = .error error) :
    kind.Refuses value error := by
  by_cases present : value = .null
  · subst present
    rw [format_null] at failed
    exact Except.error.inj failed ▸ .null kind
  by_cases shaped : kind.Shapes value
  · cases kind with
    | single element =>
      obtain ⟨item, formatted⟩ := exists_formatItem_iff.mpr shaped
      rw [format, formatted] at failed
      cases failed
    | collection element =>
      obtain ⟨items, rfl⟩ := shaped
      have inner : formatElements element 0 items = .error error := by
        cases formatted : formatElements element 0 items with
        | ok parts => simp [format, formatted, Except.map] at failed
        | error other =>
          rw [format_list_eq_error formatted] at failed
          rw [Except.error.inj failed]
      obtain ⟨_, _, _, found, earlier, refused, rfl⟩ := formatElements_zero_eq_error_iff.mp inner
      exact .element found earlier refused
  · have same := format_of_refuses (.shape present shaped)
    rw [failed] at same
    exact Except.error.inj same ▸ .shape present shaped

theorem format_eq_error_iff {kind : Kind} :
    value.format kind = .error error ↔ kind.Refuses value error :=
  ⟨refuses_of_format, format_of_refuses⟩

end Value

theorem ElementKind.Refuses.outright {element : ElementKind} {value : Value} {error : FormatError}
    (refused : element.Refuses value error) : error.Outright := by
  cases refused with
  | null => exact .null
  | nested => exact .nestedCollection _
  | shape => exact .kindMismatch _ _

/-- Formatting accepts the values that conform to the kind, whether the fragment is built on its own
or written to an empty buffer, and of the others it tells the first fault. An error about an item is
about that item outright. -/
theorem format_names_first_fault (value : Value) (kind : Kind) :
    value.format kind = (value.write kind []).result ∧
    ((∃ fragment, value.format kind = .ok fragment) ↔ kind.Takes value) ∧
    (∀ error, value.format kind = .error error ↔ kind.Refuses value error) ∧
    (∀ error, value.format kind = .error error →
      error.Outright ∨ ∃ position source, error = .element position source ∧ source.Outright) := by
  refine ⟨Argument.format_eq_write ⟨kind, value⟩, Value.exists_format_iff,
    fun _ => Value.format_eq_error_iff, ?_⟩
  intro error failed
  cases Value.format_eq_error_iff.mp failed with
  | null => exact .inl .null
  | shape => exact .inl (.kindMismatch _ _)
  | element _ _ refused => exact .inr ⟨_, _, rfl, refused.outright⟩

def raggedValue : Value :=
  .list [.boolean true, .integer (-3), .list [.list []], .null, .string ['x']]

theorem format_names_first_fault_ragged :
    raggedValue.format .scalars = .error (.element 2 (.nestedCollection .scalars)) ∧
    (raggedValue.write .scalars []).result = .error (.element 2 (.nestedCollection .scalars)) ∧
    ¬ Kind.scalars.Takes raggedValue ∧
    (FormatError.nestedCollection .scalars).Outright := by
  obtain ⟨written, accepted, refused, outright⟩ := format_names_first_fault raggedValue .scalars
  have earlier : ∀ before < 2, ∀ other,
      [Value.boolean true, .integer (-3), .list [.list []], .null, .string ['x']][before]? =
        some other → ElementKind.scalar.Takes other := by
    intro before left other found
    obtain rfl | rfl : before = 0 ∨ before = 1 := by omega
    · cases found
      exact .boolean true
    · cases found
      exact .integer (-3)
  have failed := (refused _).mpr (.element rfl earlier (.nested [.list []]))
  refine ⟨failed, written ▸ failed, ?_, ?_⟩
  · rw [← accepted, failed]
    nofun
  · rcases outright _ failed with whole | ⟨position, source, same, inner⟩
    · cases whole
    · cases same
      exact inner

end QueryTemplate
