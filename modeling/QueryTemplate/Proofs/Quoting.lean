import QueryTemplate.Proofs.Filling
import QueryTemplate.Proofs.Fragment

/-! No value breaks out of its quotes.

A reader of queries is between quotes, right after a backslash there, or outside. What it sees of a
fragment leaves it where it was, provided that the placeholder stands where its kind belongs.
-/

set_option autoImplicit false

namespace QueryTemplate

/-- Where a reader of a query is with respect to double quotes. -/
inductive Quoting where
  | outside
  | inside
  | escaped
  deriving DecidableEq, Repr

namespace Quoting

def next : Quoting → Char → Quoting
  | outside, c => if c = '"' then inside else outside
  | inside, c => if c = '"' then outside else if c = '\\' then escaped else inside
  | escaped, _ => inside

def walk (state : Quoting) (text : Text) : Quoting := text.foldl next state

@[simp] theorem walk_nil (state : Quoting) : state.walk [] = state := rfl

@[simp] theorem walk_cons (state : Quoting) (c : Char) (rest : Text) :
    state.walk (c :: rest) = (state.next c).walk rest := rfl

@[simp] theorem walk_append (state : Quoting) (first rest : Text) :
    state.walk (first ++ rest) = (state.walk first).walk rest := List.foldl_append

/-! ## What fragments do to the reader -/

theorem walk_escapeChar (c : Char) : inside.walk (Text.escapeChar c) = inside := by
  -- Only quotes and backslashes move the reader, and these come behind a backslash.
  by_cases quote : c = '"'
  · subst quote
    rfl
  by_cases backslash : c = '\\'
  · subst backslash
    rfl
  simp [Text.escapeChar, Text.needsEscape, quote, backslash, next]

theorem walk_escape (text : Text) : inside.walk (Text.escape text) = inside := by
  induction text with
  | nil => rfl
  | cons c rest ih => rw [Text.escape_cons, walk_append, walk_escapeChar, ih]

theorem next_of_ne {state : Quoting} {c : Char} (noQuote : c ≠ '"') (noBackslash : c ≠ '\\')
    (unescaped : state ≠ escaped) : state.next c = state := by
  cases state with
  | outside => simp [next, noQuote]
  | inside => simp [next, noQuote, noBackslash]
  | escaped => exact absurd rfl unescaped

theorem next_of_isBareChar {state : Quoting} {c : Char} (bare : Text.isBareChar c)
    (unescaped : state ≠ escaped) : state.next c = state := by
  apply next_of_ne _ _ unescaped <;> rintro rfl <;> exact absurd bare (by decide)

theorem walk_of_bare {state : Quoting} {text : Text} (bare : text.Bare)
    (unescaped : state ≠ escaped) : state.walk text = state := by
  induction text with
  | nil => rfl
  | cons c rest ih =>
    obtain ⟨first, later⟩ := Text.bare_cons.mp bare
    rw [walk_cons, next_of_isBareChar first unescaped, ih later]

theorem walk_join {state : Quoting} {parts : List Text} (comma : state.next ',' = state)
    (each : ∀ part ∈ parts, state.walk part = state) :
    state.walk (Text.join [','] parts) = state := by
  induction parts with
  | nil => rfl
  | cons part rest ih =>
    have head := each part List.mem_cons_self
    have tail := ih fun later member => each later (List.mem_cons_of_mem part member)
    cases rest with
    | nil => simpa [Text.join] using head
    | cons other rest => simpa [Text.join, head, comma] using tail

/-- The places where a placeholder of a kind belongs. -/
def Admits (state : Quoting) : Kind → Prop
  | .string => state = inside
  | .strings => state = outside
  | .scalar | .scalars => state = outside ∨ state = inside

def AdmitsItem (state : Quoting) : ElementKind → Prop
  | .string => state = outside
  | .scalar => state = outside ∨ state = inside

theorem admits_collection {state : Quoting} {element : ElementKind} :
    state.Admits (.collection element) ↔ state.AdmitsItem element := by
  cases element <;> rfl

theorem AdmitsItem.unescaped {state : Quoting} {element : ElementKind}
    (admitted : state.AdmitsItem element) : state ≠ escaped := by
  cases element with
  | string =>
    intro same
    cases admitted.symm.trans same
  | scalar =>
    intro same
    rcases admitted with here | here <;> cases here.symm.trans same

theorem walk_formatString {value : Value} {fragment : Text}
    (formatted : value.formatItem .string = .ok fragment) : inside.walk fragment = inside := by
  cases value with
  | string text =>
    obtain rfl := Except.ok.inj formatted
    exact walk_escape text
  | _ => cases formatted

theorem walk_formatElement {state : Quoting} {element : ElementKind} {value : Value} {item : Text}
    (admitted : state.AdmitsItem element) (formatted : value.formatElement element = .ok item) :
    state.walk item = state := by
  obtain ⟨inner, found, rfl⟩ := Value.formatElement_eq_ok_iff.mp formatted
  cases element with
  | string =>
    obtain rfl : state = outside := admitted
    have opened : outside.next '"' = inside := rfl
    have closed : inside.next '"' = outside := rfl
    simp [Value.quote, opened, walk_formatString found, closed]
  | scalar => exact walk_of_bare (Value.bare_of_formatItem found) admitted.unescaped

theorem walk_format {state : Quoting} {kind : Kind} {value : Value} {fragment : Text}
    (admitted : state.Admits kind) (formatted : value.format kind = .ok fragment) :
    state.walk fragment = state := by
  cases kind with
  | single element =>
    cases element with
    | string =>
      obtain rfl : state = inside := admitted
      exact walk_formatString formatted
    | scalar =>
      have item : state.AdmitsItem .scalar := admitted
      exact walk_of_bare (Value.bare_of_formatItem formatted) item.unescaped
  | collection element =>
    have admitted := admits_collection.mp admitted
    cases value with
    | list items =>
      cases listed : Value.formatElements element 0 items with
      | error source => simp [Value.format, listed, Except.map] at formatted
      | ok parts =>
        obtain rfl : '[' :: Text.join [','] parts ++ [']'] = fragment := by
          simpa [Value.format, listed, Except.map] using formatted
        -- Outside quotes or between them, brackets and commas mean nothing to the reader.
        have ignores : ∀ c ∈ [',', '[', ']'], state.next c = state := by
          intro c punctuation
          apply next_of_ne _ _ admitted.unescaped <;> rintro rfl <;> simp at punctuation
        have inner : state.walk (Text.join [','] parts) = state := by
          apply walk_join (ignores ',' (by simp))
          intro part member
          obtain ⟨value, _, found⟩ := Value.exists_of_mem_formatElements listed member
          exact walk_formatElement admitted found
        simp [ignores, inner]
    | _ => cases formatted

end Quoting

/-! ## What a template alone decides -/

def Segment.literalText : Segment → Text
  | literal text => text
  | placeholder _ => []

namespace Quoting

/-- Each placeholder with an argument stands where the kind of that argument belongs, as far as the
literals before it tell. -/
def WellPlaced (arguments : List Argument) (state : Quoting) (segments : List Segment) : Prop :=
  ∀ before index after, segments = before ++ .placeholder index :: after →
    ∀ argument, arguments[index]? = some argument →
      (state.walk (before.flatMap Segment.literalText)).Admits argument.kind

variable {arguments : List Argument} {state : Quoting}

theorem wellPlaced_nil : WellPlaced arguments state [] := by
  rintro before index after split
  simp at split

theorem wellPlaced_cons {segment : Segment} {rest : List Segment} :
    WellPlaced arguments state (segment :: rest) ↔
      (∀ index ∈ segment.index?, ∀ argument ∈ arguments[index]?, state.Admits argument.kind) ∧
      WellPlaced arguments (state.walk segment.literalText) rest := by
  constructor
  · intro placed
    constructor
    · intro index here argument found
      cases segment with
      | literal text => cases here
      | placeholder held =>
        obtain rfl : held = index := Option.some.inj here
        exact placed [] held rest rfl argument found
    · intro before index after split argument found
      have later := placed (segment :: before) index after (by rw [split]; rfl) argument found
      simpa using later
  · rintro ⟨here, later⟩ before index after split argument found
    cases before with
    | nil =>
      obtain ⟨rfl, rfl⟩ := List.cons.inj split
      exact here index rfl argument found
    | cons first before =>
      obtain ⟨rfl, same⟩ := List.cons.inj split
      simpa using later before index after same argument found

instance (state : Quoting) (kind : Kind) : Decidable (state.Admits kind) :=
  match kind with
  | .string => inferInstanceAs (Decidable (state = inside))
  | .strings => inferInstanceAs (Decidable (state = outside))
  | .scalar | .scalars => inferInstanceAs (Decidable (state = outside ∨ state = inside))

instance decidableWellPlaced (arguments : List Argument) (state : Quoting) :
    (segments : List Segment) → Decidable (WellPlaced arguments state segments)
  | [] => isTrue wellPlaced_nil
  | segment :: rest =>
    have := decidableWellPlaced arguments (state.walk segment.literalText) rest
    decidable_of_iff _ wellPlaced_cons.symm

/-- Fragments change nothing: the reader ends where the literals alone take it. -/
theorem walk_splice {segments : List Segment} {fragment : Nat → Text}
    (placed : WellPlaced arguments state segments)
    (given : ∀ index, .placeholder index ∈ segments →
      Argument.Gives arguments index (fragment index)) :
    state.walk (segments.flatMap (Segment.splice fragment)) =
      state.walk (segments.flatMap Segment.literalText) := by
  induction segments generalizing state with
  | nil => rfl
  | cons segment rest ih =>
    obtain ⟨here, placed⟩ := wellPlaced_cons.mp placed
    have later := ih placed fun index member => given index (List.mem_cons_of_mem segment member)
    rw [List.flatMap_cons, List.flatMap_cons, walk_append, walk_append, ← later]
    cases segment with
    | literal text => rfl
    | placeholder index =>
      obtain ⟨within, formatted⟩ := given index List.mem_cons_self
      have admitted := here index rfl arguments[index] (List.getElem?_eq_getElem within)
      -- The fragment is read here, where the literals alone pass over nothing.
      have unmoved : state.walk (fragment index) = state := walk_format admitted formatted
      simp only [Segment.splice, Segment.literalText, unmoved, walk_nil]

end Quoting

/-- No argument breaks out of its quotes: if the literals alone put each placeholder where the kind
of its argument belongs, then at every cut between segments a reader of the query is where the
literals before the cut put it. -/
theorem bind_preserves_quoting {template : Template} {arguments : List Argument} {query : Text}
    (bound : template.bind arguments = .ok query)
    (placed : Quoting.WellPlaced arguments .outside template.segments) :
    ∃ fragment : Nat → Text,
      (∀ index ∈ template.placeholders, Argument.Gives arguments index (fragment index)) ∧
      query = template.segments.flatMap (Segment.splice fragment) ∧
      ∀ before after, template.segments = before ++ after →
        Quoting.outside.walk (before.flatMap (Segment.splice fragment)) =
          Quoting.outside.walk (before.flatMap Segment.literalText) := by
  obtain ⟨fragment, given, spliced⟩ := Template.bind_eq_ok_iff.mp bound
  refine ⟨fragment, given, spliced, ?_⟩
  intro before after split
  -- The placeholders before the cut are placed as they are in the whole template.
  have cut : Quoting.WellPlaced arguments .outside before := by
    intro first index rest same argument found
    exact placed first index (rest ++ after) (by simp [split, same]) argument found
  apply Quoting.walk_splice cut
  intro index member
  exact given index (Template.mem_placeholders.mpr (split ▸ List.mem_append_left after member))

def awkwardTemplate : Template :=
  ⟨[.placeholder 0, .literal [' '], .placeholder 1, .literal ['\\', '"'], .placeholder 1,
    .placeholder 2, .literal ['\\', '\\'], .placeholder 3, .literal ['"']]⟩

def awkwardArguments : List Argument :=
  [.ofStrings [['"', '\\'], []], .ofScalar (.float ⟨0x7ff8000000000000⟩),
    .ofString ['\\', '"', '\\'], .ofScalars []]

def awkwardQuery : Text :=
  "[\"\\\"\\\\\",\"\"] NaN\\\"NaN\\\\\\\"\\\\\\\\[]\"".toList

theorem bind_preserves_quoting_awkward :
    awkwardTemplate.bind awkwardArguments = .ok awkwardQuery ∧
    Quoting.WellPlaced awkwardArguments .outside awkwardTemplate.segments ∧
    ∃ fragment : Nat → Text,
      (∀ index ∈ awkwardTemplate.placeholders,
        Argument.Gives awkwardArguments index (fragment index)) ∧
      awkwardQuery = awkwardTemplate.segments.flatMap (Segment.splice fragment) ∧
      ∀ before after, awkwardTemplate.segments = before ++ after →
        Quoting.outside.walk (before.flatMap (Segment.splice fragment)) =
          Quoting.outside.walk (before.flatMap Segment.literalText) := by
  have bound : awkwardTemplate.bind awkwardArguments = .ok awkwardQuery := rfl
  have placed : Quoting.WellPlaced awkwardArguments .outside awkwardTemplate.segments := by decide
  exact ⟨bound, placed, bind_preserves_quoting bound placed⟩

end QueryTemplate
