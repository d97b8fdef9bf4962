import Mathlib.Tactic.Choose
import QueryTemplate.Bind
import QueryTemplate.Proofs.First
import QueryTemplate.Proofs.Writing

/-! Filling without a buffer.

A query is the literals of its template with a fragment at each placeholder, one fragment for all
occurrences of an index. A template without a query fails at the first placeholder whose index has
no fragment.
-/

set_option autoImplicit false

namespace QueryTemplate

/-- The text of a segment when each index stands for a fragment. -/
def Segment.splice (fragment : Nat → Text) : Segment → Text
  | literal text => text
  | placeholder index => fragment index

/-- What stands for an index: the fragment of its argument, or why there is none. -/
def fragmentAt (argument? : Nat → Option Argument) (count index : Nat) : Except BindError Text :=
  match argument? index with
  | none => .error (.indexOutOfRange index count)
  | some argument =>
    match argument.format with
    | .error source => .error (.format index source)
    | .ok fragment => .ok fragment

/-- Every placeholder among the segments has the fragment that its index stands for. -/
def FilledBy (argument? : Nat → Option Argument) (count : Nat) (segments : List Segment)
    (fragment : Nat → Text) : Prop :=
  ∀ index, .placeholder index ∈ segments → fragmentAt argument? count index = .ok (fragment index)

namespace Segment

variable {argument? : Nat → Option Argument} {count : Nat}

theorem fill_placeholder_ok {index : Nat} {fragment : Text}
    (found : fragmentAt argument? count index = .ok fragment) (buffer : Text)
    (rest : List Segment) :
    fill argument? count buffer (.placeholder index :: rest) =
      fill argument? count (buffer ++ fragment) rest := by
  cases looked : argument? index with
  | none => simp [fragmentAt, looked] at found
  | some argument =>
    cases formatted : argument.format with
    | error source => simp [fragmentAt, looked, formatted] at found
    | ok text =>
      obtain rfl : text = fragment := by
        simpa [fragmentAt, looked, formatted] using found
      have written := (argument.write_appends buffer).of_ok formatted
      simp [fill, looked, written]

theorem fill_placeholder_error {index : Nat} {error : BindError}
    (failed : fragmentAt argument? count index = .error error) (buffer : Text)
    (rest : List Segment) :
    fill argument? count buffer (.placeholder index :: rest) = .error error := by
  cases looked : argument? index with
  | none => simpa [fill, fragmentAt, looked] using failed
  | some argument =>
    cases formatted : argument.format with
    | ok text => simp [fragmentAt, looked, formatted] at failed
    | error source =>
      obtain ⟨begun, written⟩ := (argument.write_appends buffer).of_error formatted
      simpa [fill, fragmentAt, looked, formatted, written] using failed

theorem fill_append {fragment : Nat → Text} (segments rest : List Segment)
    (filled : FilledBy argument? count segments fragment) (buffer : Text) :
    fill argument? count buffer (segments ++ rest) =
      fill argument? count (buffer ++ segments.flatMap (splice fragment)) rest := by
  induction segments generalizing buffer with
  | nil => simp
  | cons segment segments ih =>
    have later : FilledBy argument? count segments fragment :=
      fun index member => filled index (List.mem_cons_of_mem segment member)
    cases segment with
    | literal text => simp [fill, ih later, splice]
    | placeholder index =>
      have found := filled index List.mem_cons_self
      rw [List.cons_append, fill_placeholder_ok found, ih later]
      simp [splice]

theorem fill_of_filled {fragment : Nat → Text} {segments : List Segment}
    (filled : FilledBy argument? count segments fragment) (buffer : Text) :
    fill argument? count buffer segments = .ok (buffer ++ segments.flatMap (splice fragment)) := by
  simpa [fill] using fill_append segments [] filled buffer

/-- The first placeholder that cannot be filled, with what is wrong there. -/
def FailsFirst (argument? : Nat → Option Argument) (count : Nat) (segments : List Segment)
    (error : BindError) : Prop :=
  ∃ before index after, segments = before ++ .placeholder index :: after ∧
    (∃ fragment, FilledBy argument? count before fragment) ∧
    fragmentAt argument? count index = .error error

theorem fill_of_failsFirst {segments : List Segment} {error : BindError}
    (fails : FailsFirst argument? count segments error) (buffer : Text) :
    fill argument? count buffer segments = .error error := by
  obtain ⟨before, index, after, rfl, ⟨fragment, filled⟩, failed⟩ := fails
  rw [fill_append before _ filled, fill_placeholder_error failed]

theorem filledBy_of_forall {segments : List Segment}
    (each : ∀ index, .placeholder index ∈ segments →
      ∃ fragment, fragmentAt argument? count index = .ok fragment) :
    ∃ fragment, FilledBy argument? count segments fragment := by
  refine ⟨fun index => (fragmentAt argument? count index).toOption.getD [], ?_⟩
  intro index member
  obtain ⟨fragment, found⟩ := each index member
  simp [found, Except.toOption]

theorem filled_or_failsFirst (argument? : Nat → Option Argument) (count : Nat)
    (segments : List Segment) :
    (∃ fragment, FilledBy argument? count segments fragment) ∨
      ∃ error, FailsFirst argument? count segments error := by
  let fills (segment : Segment) : Prop := ∀ index, segment = .placeholder index →
    ∃ fragment, fragmentAt argument? count index = .ok fragment
  have filled : ∀ part, (∀ segment ∈ part, fills segment) →
      ∃ fragment, FilledBy argument? count part fragment := fun part each =>
    filledBy_of_forall fun index member => each _ member index rfl
  rcases all_or_first fills segments with all | ⟨before, segment, after, split, earlier, fails⟩
  · exact .inl (filled segments all)
  · -- Nothing before the segment fails, so the part before it is filled.
    obtain ⟨index, rfl, absent⟩ : ∃ index, segment = .placeholder index ∧
        ¬ ∃ fragment, fragmentAt argument? count index = .ok fragment := by
      simpa [fills] using fails
    cases found : fragmentAt argument? count index with
    | ok fragment => exact absurd ⟨fragment, found⟩ absent
    | error error => exact .inr ⟨error, before, index, after, split, filled before earlier, found⟩

theorem fill_eq_ok_iff {segments : List Segment} {buffer query : Text} :
    fill argument? count buffer segments = .ok query ↔
      ∃ fragment, FilledBy argument? count segments fragment ∧
        query = buffer ++ segments.flatMap (splice fragment) := by
  constructor
  · intro bound
    rcases filled_or_failsFirst argument? count segments with ⟨fragment, filled⟩ | ⟨error, fails⟩
    · rw [fill_of_filled filled] at bound
      exact ⟨fragment, filled, (Except.ok.inj bound).symm⟩
    · rw [fill_of_failsFirst fails] at bound
      cases bound
  · rintro ⟨fragment, filled, rfl⟩
    exact fill_of_filled filled buffer

theorem fill_eq_error_iff {segments : List Segment} {buffer : Text} {error : BindError} :
    fill argument? count buffer segments = .error error ↔
      FailsFirst argument? count segments error := by
  constructor
  · intro failed
    rcases filled_or_failsFirst argument? count segments with ⟨fragment, filled⟩ | ⟨other, fails⟩
    · rw [fill_of_filled filled] at failed
      cases failed
    · rw [fill_of_failsFirst fails] at failed
      cases failed
      exact fails
  · exact fun fails => fill_of_failsFirst fails buffer

end Segment

/-! ## The query of a template and a list of arguments -/

namespace Argument

/-- There is an argument at the index, and this is its fragment. -/
def Gives (arguments : List Argument) (index : Nat) (fragment : Text) : Prop :=
  ∃ within : index < arguments.length, arguments[index].format = .ok fragment

theorem gives_iff_getElem? {arguments : List Argument} {index : Nat} {fragment : Text} :
    Gives arguments index fragment ↔
      ∃ argument, arguments[index]? = some argument ∧ argument.format = .ok fragment := by
  constructor
  · rintro ⟨within, formatted⟩
    exact ⟨_, List.getElem?_eq_getElem within, formatted⟩
  · rintro ⟨argument, found, formatted⟩
    obtain ⟨within, rfl⟩ := List.getElem?_eq_some_iff.mp found
    exact ⟨within, formatted⟩

theorem Gives.unique {arguments : List Argument} {index : Nat} {fragment other : Text}
    (given : Gives arguments index fragment) (regiven : Gives arguments index other) :
    fragment = other :=
  Except.ok.inj (given.2.symm.trans regiven.2)

theorem Gives.congr {first second : List Argument} {index : Nat} {fragment : Text}
    (given : Gives first index fragment) (same : first[index]? = second[index]?) :
    Gives second index fragment := by
  rw [gives_iff_getElem?, same] at given
  exact gives_iff_getElem?.mpr given

def Conform (arguments : List Argument) : Prop :=
  ∀ argument ∈ arguments, ∃ fragment, argument.format = .ok fragment

theorem Conform.gives_iff {arguments : List Argument} (conform : Conform arguments) {index : Nat} :
    (∃ fragment, Gives arguments index fragment) ↔ index < arguments.length := by
  constructor
  · rintro ⟨fragment, within, _⟩
    exact within
  · intro within
    obtain ⟨fragment, formatted⟩ := conform _ (List.getElem_mem within)
    exact ⟨fragment, within, formatted⟩

/-- Why the index has no fragment: no argument is there, or its value does not conform to its
kind. -/
inductive Refuses (arguments : List Argument) (index : Nat) : BindError → Prop where
  | outOfRange (short : arguments.length ≤ index) :
    Refuses arguments index (.indexOutOfRange index arguments.length)
  | format {source : FormatError} (within : index < arguments.length)
    (fault : arguments[index].format = .error source) :
    Refuses arguments index (.format index source)

theorem fragmentAt_of_le {arguments : List Argument} {index : Nat}
    (short : arguments.length ≤ index) :
    fragmentAt (arguments[·]?) arguments.length index =
      .error (.indexOutOfRange index arguments.length) := by
  simp [fragmentAt, short]

theorem fragmentAt_eq_ok_iff {arguments : List Argument} {index : Nat} {fragment : Text} :
    fragmentAt (arguments[·]?) arguments.length index = .ok fragment ↔
      Gives arguments index fragment := by
  by_cases within : index < arguments.length
  · cases formatted : arguments[index].format <;> simp [fragmentAt, Gives, within, formatted]
  · rw [fragmentAt_of_le (Nat.le_of_not_lt within)]
    simp [Gives, within]

theorem fragmentAt_eq_error_iff {arguments : List Argument} {index : Nat} {error : BindError} :
    fragmentAt (arguments[·]?) arguments.length index = .error error ↔
      Refuses arguments index error := by
  constructor
  · intro failed
    by_cases within : index < arguments.length
    · cases formatted : arguments[index].format with
      | ok fragment => simp [fragmentAt, within, formatted] at failed
      | error source =>
        obtain rfl : .format index source = error := by
          simpa [fragmentAt, within, formatted] using failed
        exact .format within formatted
    · have short := Nat.le_of_not_lt within
      rw [fragmentAt_of_le short] at failed
      obtain rfl := Except.error.inj failed
      exact .outOfRange short
  · intro refused
    cases refused with
    | outOfRange short => exact fragmentAt_of_le short
    | format within fault => simp [fragmentAt, within, fault]

end Argument

namespace Template

variable {template : Template} {arguments : List Argument}

theorem bind_eq_ok_iff {query : Text} :
    template.bind arguments = .ok query ↔
      ∃ fragment : Nat → Text,
        (∀ index ∈ template.placeholders, Argument.Gives arguments index (fragment index)) ∧
        query = template.segments.flatMap (Segment.splice fragment) := by
  simp only [bind, Segment.fill_eq_ok_iff, FilledBy, Argument.fragmentAt_eq_ok_iff,
    mem_placeholders, List.nil_append]

theorem exists_bind_iff :
    (∃ query, template.bind arguments = .ok query) ↔
      ∀ index ∈ template.placeholders, ∃ fragment, Argument.Gives arguments index fragment := by
  constructor
  · rintro ⟨query, bound⟩ index member
    obtain ⟨fragment, given, _⟩ := bind_eq_ok_iff.mp bound
    exact ⟨fragment index, given index member⟩
  · intro each
    choose! fragment given using each
    exact ⟨_, bind_eq_ok_iff.mpr ⟨fragment, given, rfl⟩⟩

theorem bind_eq_error_iff {error : BindError} :
    template.bind arguments = .error error ↔
      ∃ before index after, template.segments = before ++ .placeholder index :: after ∧
        (∀ earlier, .placeholder earlier ∈ before →
          ∃ fragment, Argument.Gives arguments earlier fragment) ∧
        Argument.Refuses arguments index error := by
  simp only [bind, Segment.fill_eq_error_iff, Segment.FailsFirst, Argument.fragmentAt_eq_error_iff]
  constructor
  · rintro ⟨before, index, after, split, ⟨fragment, filled⟩, refused⟩
    refine ⟨before, index, after, split, ?_, refused⟩
    exact fun earlier member => ⟨_, Argument.fragmentAt_eq_ok_iff.mp (filled earlier member)⟩
  · rintro ⟨before, index, after, split, filled, refused⟩
    refine ⟨before, index, after, split, Segment.filledBy_of_forall ?_, refused⟩
    intro earlier member
    obtain ⟨fragment, given⟩ := filled earlier member
    exact ⟨fragment, Argument.fragmentAt_eq_ok_iff.mpr given⟩

theorem bind_ne_parse_error (source : ParseError) :
    template.bind arguments ≠ .error (.parse source) := by
  intro failed
  obtain ⟨_, _, _, _, _, refused⟩ := bind_eq_error_iff.mp failed
  cases refused

-- Where every index has an argument, only a value can be at fault.
theorem format_of_bind_eq_error {error : BindError}
    (within : ∀ index ∈ template.placeholders, index < arguments.length)
    (failed : template.bind arguments = .error error) :
    ∃ index source, error = .format index source := by
  obtain ⟨before, index, after, split, _, refused⟩ := bind_eq_error_iff.mp failed
  have member : index ∈ template.placeholders := by simp [mem_placeholders, split]
  cases refused with
  | outOfRange short => exact absurd (within index member) (Nat.not_lt.mpr short)
  | format _ _ => exact ⟨_, _, rfl⟩

end Template

theorem bindText_eq_parse_error_iff {text : Text} {arguments : List Argument}
    {source : ParseError} :
    bindText text arguments = .error (.parse source) ↔ Template.parse text = .error source := by
  cases read : Template.parse text with
  | error other => simp [bindText, read]
  | ok template => simpa [bindText, read] using Template.bind_ne_parse_error source

/-- A template has a query exactly when each of its indices is in range and has a conforming value
there. The query is the literals with the fragments between them, and otherwise the first
placeholder without a fragment decides the error. -/
theorem bind_splices_fragments (template : Template) (arguments : List Argument) (text : Text) :
    (∀ argument : Argument, argument.format = (argument.write []).result) ∧
    ((∃ query, template.bind arguments = .ok query) ↔
      ∀ index ∈ template.placeholders, ∃ fragment, Argument.Gives arguments index fragment) ∧
    (∀ query, template.bind arguments = .ok query ↔
      ∃ fragment : Nat → Text,
        (∀ index ∈ template.placeholders, Argument.Gives arguments index (fragment index)) ∧
        query = template.segments.flatMap (Segment.splice fragment)) ∧
    (∀ error, template.bind arguments = .error error ↔
      ∃ before index after, template.segments = before ++ .placeholder index :: after ∧
        (∀ earlier, .placeholder earlier ∈ before →
          ∃ fragment, Argument.Gives arguments earlier fragment) ∧
        Argument.Refuses arguments index error) ∧
    (∀ source, bindText text arguments = .error (.parse source) ↔
      Template.parse text = .error source) ∧
    (∀ written, Template.parse text = .ok written →
      bindText text arguments = written.bind arguments) := by
  refine ⟨fun argument => argument.format_eq_write, Template.exists_bind_iff,
    fun _ => Template.bind_eq_ok_iff, fun _ => Template.bind_eq_error_iff,
    fun _ => bindText_eq_parse_error_iff, ?_⟩
  intro written read
  simp [bindText, read]

def repeatedTemplate : Template :=
  ⟨[.placeholder 1, .literal ['?'], .placeholder 0, .placeholder 1]⟩

theorem bind_splices_fragments_repeated :
    Template.parse "?1??0?1".toList = .ok repeatedTemplate ∧
    bindText "?1??0?1".toList [.ofString ['?', '1'], .ofScalar (.integer 7)] =
      .ok "7??17".toList := by
  let arguments : List Argument := [.ofString ['?', '1'], .ofScalar (.integer 7)]
  have cut : Template.pieces "?1??0?1".toList =
      ([.placeholder ['1'], .literal ['?'], .placeholder ['0'], .placeholder ['1']], []) := by
    decide +kernel
  have read : Template.parse "?1??0?1".toList = .ok repeatedTemplate := by
    rw [Template.parse, cut]
    rfl
  have given : ∀ index ∈ repeatedTemplate.placeholders,
      Argument.Gives arguments index (if index = 0 then ['?', '1'] else ['7']) := by
    intro index member
    obtain rfl | rfl | rfl : index = 1 ∨ index = 0 ∨ index = 1 := by
      simpa [repeatedTemplate, Template.mem_placeholders] using member
    all_goals exact ⟨by decide, rfl⟩
  obtain ⟨_, _, bound, _, _, same⟩ :=
    bind_splices_fragments repeatedTemplate arguments "?1??0?1".toList
  exact ⟨read, (same _ read).trans ((bound _).mpr ⟨_, given, rfl⟩)⟩

end QueryTemplate
