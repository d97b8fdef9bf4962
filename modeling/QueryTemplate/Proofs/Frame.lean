import QueryTemplate.Proofs.First
import QueryTemplate.Proofs.Writing

/-! What a writer leaves alone.

A writer never looks at what its buffer holds: that stays in front, and behind it comes the same
text as in an empty buffer, up to the same fault if there is one.
-/

set_option autoImplicit false

namespace QueryTemplate

def Written.behind (lead : Text) (w : Written) : Written := { w with buffer := lead ++ w.buffer }

/-- A text in front of the buffer stays in front of the outcome and changes nothing else. -/
def Appending (writer : Text → Written) : Prop :=
  ∀ lead buffer, writer (lead ++ buffer) = (writer buffer).behind lead

namespace Appending

variable {writer more : Text → Written}

theorem appended (text : Text) (fault : Option FormatError) :
    Appending fun buffer => ⟨buffer ++ text, fault⟩ := by
  intro lead buffer
  simp [Written.behind]

theorem stopped (fault : FormatError) : Appending fun buffer => ⟨buffer, some fault⟩ :=
  fun _ _ => rfl

theorem opened (appending : Appending writer) (opening : Text) :
    Appending fun buffer => writer (buffer ++ opening) := by
  intro lead buffer
  dsimp only
  rw [List.append_assoc]
  exact appending lead (buffer ++ opening)

theorem andThen (first : Appending writer) (next : Appending more) :
    Appending fun buffer => (writer buffer).andThen more := by
  intro lead buffer
  dsimp only
  rw [first lead buffer]
  cases faulty : (writer buffer).fault with
  | none =>
    simp only [Written.andThen, Written.behind, faulty]
    exact next lead (writer buffer).buffer
  | some fault => simp only [Written.andThen, Written.behind, faulty]

theorem eq_behind (appending : Appending writer) (buffer : Text) :
    writer buffer = (writer []).behind buffer := by
  simpa using appending buffer []

end Appending

/-! ## Values -/

namespace Value

theorem appending_writeString (value : Value) : Appending fun buffer => value.writeString buffer := by
  cases value with
  | string text =>
    simp only [writeString, Text.appendEscaped_eq]
    exact .appended (Text.escape text) none
  | _ => exact .stopped _

theorem appending_writeScalar (value : Value) : Appending fun buffer => value.writeScalar buffer := by
  cases value with
  | boolean b => cases b <;> exact .appended _ none
  | integer n => exact .appended _ none
  | float x => exact .appended _ none
  | _ => exact .stopped _

theorem appending_writeElement (kind : Kind) (value : Value) :
    Appending fun buffer => value.writeElement kind buffer := by
  cases value with
  | list items => exact .stopped _
  | _ =>
    simp only [writeElement]
    cases kind.element with
    | string => exact ((appending_writeString _).opened ['"']).andThen (.appended ['"'] none)
    | scalar => exact appending_writeScalar _

/-- Items from a position on. The comma in front of an item is decided by its position. -/
theorem appending_writeElements (kind : Kind) (position : Nat) (items : List Value) :
    Appending fun buffer => writeElements kind buffer position items := by
  induction items generalizing position with
  | nil => exact fun _ _ => rfl
  | cons value rest ih =>
    -- No buffer decides the comma, so it is one text for all of them.
    let comma : Text := if 0 < position then [','] else []
    have opened (buffer : Text) :
        (if 0 < position then buffer ++ [','] else buffer) = buffer ++ comma := by
      by_cases later : 0 < position <;> simp [comma, later]
    have head := (appending_writeElement kind value).opened comma
    intro lead buffer
    simp only [writeElements, opened]
    have moved := head lead buffer
    dsimp only at moved
    rw [moved]
    cases faulty : (value.writeElement kind (buffer ++ comma)).fault with
    | none =>
      simp only [Written.behind, faulty]
      exact ih (position + 1) lead _
    | some source => simp only [Written.behind, faulty]

theorem appending_write (kind : Kind) (value : Value) :
    Appending fun buffer => value.write kind buffer := by
  cases kind with
  | single element =>
    cases element with
    | string => exact appending_writeString value
    | scalar => exact appending_writeScalar value
  | collection element =>
    cases value with
    | list items =>
      exact ((appending_writeElements _ 0 items).opened ['[']).andThen (.appended [']'] none)
    | _ => exact .stopped _

variable {kind : Kind} {value : Value} {buffer : Text}

theorem write_eq_ok_iff {fragment : Text} :
    value.write kind buffer = ⟨buffer ++ fragment, none⟩ ↔ value.format kind = .ok fragment := by
  have appends := value.write_appends kind buffer
  constructor
  · intro written
    cases formatted : value.format kind with
    | ok other =>
      rw [appends.of_ok formatted, Written.mk.injEq] at written
      rw [List.append_cancel_left written.1]
    | error source =>
      obtain ⟨begun, failed⟩ := appends.of_error formatted
      rw [failed] at written
      cases (Written.mk.inj written).2
  · exact appends.of_ok

theorem fault_write_eq_some_iff {error : FormatError} :
    (value.write kind buffer).fault = some error ↔ value.format kind = .error error := by
  have appends := value.write_appends kind buffer
  cases formatted : value.format kind with
  | ok fragment =>
    rw [appends.of_ok formatted]
    simp
  | error source =>
    obtain ⟨begun, failed⟩ := appends.of_error formatted
    rw [failed]
    simp

theorem fault_write_eq_none_iff :
    (value.write kind buffer).fault = none ↔ ∃ fragment, value.format kind = .ok fragment := by
  have appends := value.write_appends kind buffer
  cases formatted : value.format kind with
  | ok fragment =>
    rw [appends.of_ok formatted]
    simp
  | error source =>
    obtain ⟨begun, failed⟩ := appends.of_error formatted
    rw [failed]
    simp

theorem write_eq_of_error {error : FormatError} (failed : value.format kind = .error error)
    (buffer : Text) :
    value.write kind buffer = ⟨buffer ++ (value.write kind []).buffer, some error⟩ := by
  have same := (appending_write kind value).eq_behind buffer
  have fault : (value.write kind []).fault = some error := fault_write_eq_some_iff.mpr failed
  rw [same, Written.behind, fault]

end Value

/-! ## Arguments in turn -/

namespace Argument

def Formatted (arguments : List Argument) (fragments : List Text) : Prop :=
  List.Forall₂ (fun argument fragment => argument.format = .ok fragment) arguments fragments

variable {arguments earlier : List Argument} {fragments : List Text}

theorem exists_formatted (each : ∀ argument ∈ arguments, ∃ fragment, argument.format = .ok fragment) :
    ∃ fragments, Formatted arguments fragments := by
  induction arguments with
  | nil => exact ⟨[], .nil⟩
  | cons argument rest ih =>
    obtain ⟨⟨fragment, formatted⟩, others⟩ := List.forall_mem_cons.mp each
    obtain ⟨fragments, more⟩ := ih others
    exact ⟨fragment :: fragments, .cons formatted more⟩

theorem writeAll_append (formatted : Formatted earlier fragments) (later : List Argument)
    (buffer : Text) (position : Nat) :
    writeAll buffer position (earlier ++ later) =
      writeAll (buffer ++ fragments.flatten) (position + earlier.length) later := by
  induction formatted generalizing buffer position with
  | nil => simp
  | @cons argument fragment _ _ first _ ih =>
    have written : argument.write buffer = ⟨buffer ++ fragment, none⟩ := Value.write_eq_ok_iff.mpr first
    simp only [List.cons_append, writeAll, written, ih, List.flatten_cons, List.append_assoc,
      List.length_cons]
    congr 1
    omega

theorem writeAll_of_formatted (formatted : Formatted arguments fragments) (buffer : Text)
    (position : Nat) :
    writeAll buffer position arguments = (buffer ++ fragments.flatten, none) := by
  simpa [writeAll] using writeAll_append formatted [] buffer position

theorem writeAll_of_error {argument : Argument} {error : FormatError}
    (formatted : Formatted earlier fragments) (failed : argument.format = .error error)
    (later : List Argument) (buffer : Text) (position : Nat) :
    writeAll buffer position (earlier ++ argument :: later) =
      (buffer ++ fragments.flatten ++ (argument.write []).buffer,
        some (position + earlier.length, error)) := by
  have written (before : Text) :
      argument.write before = ⟨before ++ (argument.write []).buffer, some error⟩ :=
    Value.write_eq_of_error failed before
  rw [writeAll_append formatted, writeAll, written]

theorem formatted_or_fails (arguments : List Argument) :
    (∃ fragments, Formatted arguments fragments) ∨
      ∃ earlier argument later fragments error, arguments = earlier ++ argument :: later ∧
        Formatted earlier fragments ∧ argument.format = .error error := by
  rcases all_or_first (fun argument : Argument => ∃ fragment, argument.format = .ok fragment)
    arguments with all | ⟨earlier, argument, later, split, before, fails⟩
  · exact .inl (exists_formatted all)
  · obtain ⟨fragments, formatted⟩ := exists_formatted before
    cases outcome : argument.format with
    | ok fragment => exact absurd ⟨fragment, outcome⟩ fails
    | error error =>
      exact .inr ⟨earlier, argument, later, fragments, error, split, formatted, outcome⟩

/-- Every argument has a fragment if nothing stops the writing. -/
theorem writeAll_succeeds_iff (buffer : Text) (arguments : List Argument) :
    (writeAll buffer 0 arguments).2 = none ↔ ∃ fragments, Formatted arguments fragments := by
  constructor
  · intro succeeded
    rcases formatted_or_fails arguments with all |
      ⟨earlier, argument, later, fragments, error, rfl, formatted, failed⟩
    · exact all
    · rw [writeAll_of_error formatted failed] at succeeded
      cases succeeded
  · rintro ⟨fragments, formatted⟩
    rw [writeAll_of_formatted formatted]

theorem writeAll_stops_iff {buffer text : Text} {position : Nat} {error : FormatError} :
    writeAll buffer 0 arguments = (text, some (position, error)) ↔
      ∃ earlier argument later fragments, arguments = earlier ++ argument :: later ∧
        position = earlier.length ∧ Formatted earlier fragments ∧ argument.format = .error error ∧
        text = buffer ++ fragments.flatten ++ (argument.write []).buffer := by
  constructor
  · intro stopped
    rcases formatted_or_fails arguments with ⟨fragments, formatted⟩ |
      ⟨earlier, argument, later, fragments, fault, rfl, formatted, failed⟩
    · rw [writeAll_of_formatted formatted] at stopped
      cases stopped
    · rw [writeAll_of_error formatted failed, Nat.zero_add] at stopped
      cases stopped
      exact ⟨earlier, argument, later, fragments, rfl, rfl, formatted, failed, rfl⟩
  · rintro ⟨earlier, argument, later, fragments, rfl, rfl, formatted, failed, rfl⟩
    rw [writeAll_of_error formatted failed, Nat.zero_add]

end Argument

/-- Writing only appends, and appends the same whatever is already there: the fragment of the value
if it has one, and otherwise what was written before the error that formatting gives. Arguments that
are written in turn leave the fragments of all of them, or of those before the first that fails and
then what that one leaves. -/
theorem writing_only_appends (buffer : Text) :
    (∀ (value : Value) (kind : Kind),
      value.format kind = (value.write kind []).result ∧
      ((value.write kind buffer).fault = none ↔ ∃ fragment, value.format kind = .ok fragment) ∧
      (∀ fragment, value.write kind buffer = ⟨buffer ++ fragment, none⟩ ↔
        value.format kind = .ok fragment) ∧
      (∀ error, (value.write kind buffer).fault = some error ↔ value.format kind = .error error) ∧
      buffer <+: (value.write kind buffer).buffer ∧
      ∀ lead : Text, value.write kind (lead ++ buffer) =
        ⟨lead ++ (value.write kind buffer).buffer, (value.write kind buffer).fault⟩) ∧
    ∀ arguments : List Argument,
      ((Argument.writeAll buffer 0 arguments).2 = none ↔
        ∃ fragments, Argument.Formatted arguments fragments) ∧
      (∀ fragments, Argument.Formatted arguments fragments →
        Argument.writeAll buffer 0 arguments = (buffer ++ fragments.flatten, none)) ∧
      ∀ text position error,
        Argument.writeAll buffer 0 arguments = (text, some (position, error)) ↔
          ∃ earlier argument later fragments, arguments = earlier ++ argument :: later ∧
            position = earlier.length ∧ Argument.Formatted earlier fragments ∧
            argument.format = .error error ∧
            text = buffer ++ fragments.flatten ++ (argument.write []).buffer := by
  constructor
  · intro value kind
    have same := (Value.appending_write kind value).eq_behind buffer
    refine ⟨Argument.format_eq_write ⟨kind, value⟩, Value.fault_write_eq_none_iff,
      fun _ => Value.write_eq_ok_iff, fun _ => Value.fault_write_eq_some_iff, ?_,
      fun lead => Value.appending_write kind value lead buffer⟩
    rw [same]
    exact List.prefix_append buffer _
  · intro arguments
    exact ⟨Argument.writeAll_succeeds_iff buffer arguments,
      fun _ formatted => Argument.writeAll_of_formatted formatted buffer 0,
      fun _ _ _ => Argument.writeAll_stops_iff⟩

def severalArguments : List Argument :=
  [.ofString ['a', '"'], .ofScalars [.integer (-1), .boolean true], .ofStrings [['\\']],
    ⟨.strings, .list [.string [','], .boolean false]⟩, .ofString ['b']]

theorem writing_only_appends_cut_short :
    Argument.writeAll ['[', '"'] 0 severalArguments =
      ("[\"a\\\"[-1,true][\"\\\\\"][\",\",\"".toList,
        some (3, .element 1 (.kindMismatch .string "boolean"))) := by
  obtain ⟨_, _, stops⟩ := (writing_only_appends ['[', '"']).2 severalArguments
  refine (stops _ _ _).mpr ⟨severalArguments.take 3, _, _,
    ["a\\\"".toList, "[-1,true]".toList, "[\"\\\\\"]".toList], rfl, rfl, ?_, rfl, rfl⟩
  exact .cons rfl (.cons rfl (.cons rfl .nil))

end QueryTemplate
