import QueryTemplate.Format

/-! Writing appends what formatting gives: the same fragment or the same fault, whatever was in the
buffer before. -/

set_option autoImplicit false

namespace QueryTemplate

def Written.result (w : Written) : Except FormatError Text :=
  match w.fault with
  | none => .ok w.buffer
  | some source => .error source

/-- Writing on from a buffer came out as formatting did. After a fault some text is left behind. -/
def Written.Appends (w : Written) (buffer : Text) : Except FormatError Text → Prop
  | .ok fragment => w = ⟨buffer ++ fragment, none⟩
  | .error source => ∃ begun, w = ⟨buffer ++ begun, some source⟩

namespace Written.Appends

variable {w : Written} {buffer : Text} {result : Except FormatError Text}

theorem of_ok {fragment : Text} (appended : w.Appends buffer result)
    (formatted : result = .ok fragment) : w = ⟨buffer ++ fragment, none⟩ := by
  subst formatted
  exact appended

theorem of_error {source : FormatError} (appended : w.Appends buffer result)
    (formatted : result = .error source) : ∃ begun, w = ⟨buffer ++ begun, some source⟩ := by
  subst formatted
  exact appended

/-- Text that was written first belongs to the fragment. -/
theorem prepend {lead : Text} (appended : w.Appends (buffer ++ lead) result) :
    w.Appends buffer (result.map (lead ++ ·)) := by
  cases result with
  | ok fragment => simpa [Written.Appends, Except.map] using appended
  | error source =>
    obtain ⟨begun, same⟩ := appended
    exact ⟨lead ++ begun, by simpa using same⟩

theorem andThen (appended : w.Appends buffer result) (closing : Text) :
    (w.andThen fun buffer => ⟨buffer ++ closing, none⟩).Appends buffer
      (result.map (· ++ closing)) := by
  cases result with
  | ok fragment =>
    obtain rfl : w = ⟨buffer ++ fragment, none⟩ := appended
    simp [Written.Appends, Written.andThen, Except.map]
  | error source =>
    obtain ⟨begun, rfl⟩ := appended
    exact ⟨begun, rfl⟩

end Written.Appends

namespace Value

theorem writeString_appends (buffer : Text) (value : Value) :
    (value.writeString buffer).Appends buffer (value.formatItem .string) := by
  cases value <;> simp [writeString, formatItem, Written.Appends, Text.appendEscaped_eq, shape]

theorem writeScalar_appends (buffer : Text) (value : Value) :
    (value.writeScalar buffer).Appends buffer (value.formatItem .scalar) := by
  cases value with
  | boolean b => cases b <;> simp [writeScalar, formatItem, Written.Appends]
  | _ => simp [writeScalar, formatItem, Written.Appends, shape]

theorem writeElement_appends (element : ElementKind) (buffer : Text) (value : Value) :
    (value.writeElement (.collection element) buffer).Appends buffer
      (value.formatElement element) := by
  cases element with
  | string =>
    have quoted := ((writeString_appends (buffer ++ ['"']) value).andThen ['"']).prepend
    cases value with
    -- A list is refused before its opening quote is written.
    | list items => exact ⟨[], by simp [writeElement]⟩
    | string text =>
      simpa [writeElement, Kind.element, formatElement, formatItem, quote, Except.map] using quoted
    | _ => simpa [writeElement, Kind.element, formatElement, formatItem, Except.map] using quoted
  | scalar =>
    have plain := writeScalar_appends buffer value
    cases value with
    | list items => exact ⟨[], by simp [writeElement]⟩
    | _ =>
      simpa [writeElement, Kind.element, formatElement, formatItem, quote, Except.map] using plain

/-- Items as they stand from a position on, each but the one at position zero behind a comma. -/
def listed (position : Nat) (parts : List Text) : Text :=
  if 0 < position then parts.flatMap (',' :: ·) else Text.join [','] parts

theorem listed_nil (position : Nat) : listed position [] = [] := by
  by_cases later : 0 < position <;> simp [listed, later, Text.join]

theorem listed_cons (position : Nat) (part : Text) (rest : List Text) :
    listed position (part :: rest) =
      (if 0 < position then [','] else []) ++ part ++ listed (position + 1) rest := by
  by_cases later : 0 < position <;> simp [listed, later, Text.join_cons]

theorem writeElements_appends (element : ElementKind) (buffer : Text) (position : Nat)
    (items : List Value) :
    (writeElements (.collection element) buffer position items).Appends buffer
      ((formatElements element position items).map (listed position)) := by
  induction items generalizing buffer position with
  | nil => simp [writeElements, formatElements, Except.map, listed_nil, Written.Appends]
  | cons value rest ih =>
    let lead : Text := if 0 < position then [','] else []
    have opened : (if 0 < position then buffer ++ [','] else buffer) = buffer ++ lead := by
      by_cases later : 0 < position <;> simp [lead, later]
    have head := writeElement_appends element (buffer ++ lead) value
    rw [writeElements, opened]
    cases formatted : value.formatElement element with
    | error source =>
      obtain ⟨begun, written⟩ := head.of_error formatted
      simp only [written, formatElements, formatted]
      exact ⟨lead ++ begun, by simp⟩
    | ok item =>
      have written := head.of_ok formatted
      -- The comma, this item and what follows are one fragment behind the buffer.
      have regrouped : ((formatElements element (position + 1) rest).map (item :: ·)).map
          (listed position) =
          ((formatElements element (position + 1) rest).map (listed (position + 1))).map
            (lead ++ item ++ ·) := by
        cases formatElements element (position + 1) rest <;>
          simp [Except.map, listed_cons, lead]
      simp only [written, formatElements, formatted]
      rw [regrouped, List.append_assoc]
      exact (ih (buffer ++ (lead ++ item)) (position + 1)).prepend

theorem write_appends (value : Value) (kind : Kind) (buffer : Text) :
    (value.write kind buffer).Appends buffer (value.format kind) := by
  cases kind with
  | single element =>
    cases element with
    | string => exact writeString_appends buffer value
    | scalar => exact writeScalar_appends buffer value
  | collection element =>
    cases value with
    | list items =>
      have inside := writeElements_appends element (buffer ++ ['[']) 0 items
      have closed := (inside.andThen [']']).prepend
      have regrouped : (((formatElements element 0 items).map (listed 0)).map (· ++ [']'])).map
          (['['] ++ ·) = (list items).format (.collection element) := by
        rw [format]
        cases formatElements element 0 items <;> simp [Except.map, listed]
      rw [← regrouped]
      exact closed
    | _ => exact ⟨[], by simp [write, shape]⟩

end Value

namespace Argument

theorem write_appends (buffer : Text) (argument : Argument) :
    (argument.write buffer).Appends buffer argument.format :=
  argument.value.write_appends argument.kind buffer

theorem format_eq_write (argument : Argument) : argument.format = (argument.write []).result := by
  have appended := argument.write_appends []
  cases formatted : argument.format with
  | ok fragment =>
    rw [appended.of_ok formatted]
    rfl
  | error source =>
    obtain ⟨begun, written⟩ := appended.of_error formatted
    rw [written]
    rfl

end Argument

end QueryTemplate
