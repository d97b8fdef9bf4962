import QueryTemplate.Proofs.StringLiteral

/-! The code of an expansion, run.

Code is read as a compiler reads it: names in their scopes token by token, items between commas, and
what brackets hold. A block binds a template and an array of arguments and ends with the call that
fills the one with the other.
-/

set_option autoImplicit false

namespace QueryTemplate.Inline

namespace Code

def isWord (s : String) : Code → Bool
  | token text => text == s.toList
  | _ => false

def after? : List String → List Code → Option (List Code)
  | [], code => some code
  | s :: words, first :: rest => if first.isWord s then after? words rest else none
  | _ :: _, [] => none

def afterPath? (names : List String) (code : List Code) : Option (List Code) :=
  after? (names.flatMap fun name => ["::", name]) code

def items? {α : Type} (item? : List Code → Option α) (code : List Code) : Option (List α) :=
  if code.isEmpty then some [] else (code.splitOnP (isWord ",")).mapM item?

def index? : Code → Option Nat
  | token text =>
    let digits := text.takeWhile Text.isDigit
    if text.dropWhile Text.isDigit = "usize".toList ∧ digits ≠ [] then
      some (Text.digitsValue digits)
    else none
  | _ => none

def literalSegment? (code : List Code) : Option Segment := do
  let [parenthesized held] ← afterPath? ["strquery", "Segment", "Literal"] code | none
  let [parenthesized [token text]] ← afterPath? ["std", "string", "String", "from"] held | none
  (literal? text).map .literal

def placeholderSegment? (code : List Code) : Option Segment := do
  let [parenthesized [index]] ← afterPath? ["strquery", "Segment", "Placeholder"] code | none
  index.index?.map .placeholder

def segment? (code : List Code) : Option Segment :=
  (literalSegment? code).or (placeholderSegment? code)

def argument? (code : List Code) : Option String := do
  let [parenthesized held] ← afterPath? ["strquery", "QueryParam", "bind_argument"] code | none
  let [parenthesized [token source]] ← after? ["&"] held | none
  some (String.ofList source)

def templateStatement? (code : List Code) : Option (Text × List Segment × List Code) := do
  let token name :: code ← after? ["let"] code | none
  let code ← after? ["="] code
  let parenthesized made :: code ← afterPath? ["strquery", "Template", "from_segments"] code | none
  let [bracketed listed] ← (afterPath? ["std", "vec"] made).bind (after? ["!"]) | none
  let segments ← items? segment? listed
  some (name, segments, ← after? [";"] code)

/-- A name bound to an array of arguments, their sources, and what follows. An array of another
length than that of its type is none. -/
def argumentsStatement? (code : List Code) : Option (Text × List String × List Code) := do
  let token name :: code ← after? ["let"] code | none
  let bracketed type :: code ← after? [":"] code | none
  let [length] ← (afterPath? ["strquery", "BoundArgument"] type).bind (after? [";"]) | none
  let bracketed listed :: code ← after? ["="] code | none
  let sources ← items? argument? listed
  if length.index? = some sources.length then some (name, sources, ← after? [";"] code) else none

def call? (code : List Code) : Option (Text × Text) := do
  let [parenthesized handed] ← afterPath? ["strquery", "bind"] code | none
  let token template :: handed ← after? ["&"] handed | none
  let [token arguments] ← after? [",", "&"] handed | none
  some (template, arguments)

/-- The segments and the arguments of a block. What it binds first must not be hidden by what it
binds then, and the call takes both by their names. -/
def expansion? : Code → Option (Expansion String)
  | braced code => do
    let (template, segments, code) ← templateStatement? code
    let (arguments, sources, code) ← argumentsStatement? code
    let handed ← call? code
    if template ≠ arguments ∧ handed = (template, arguments) then some ⟨segments, sources⟩ else none
  | _ => none

/-- What running a block gives when its argument expressions have the given values, in the order in
which they are evaluated. -/
def query? (code : Code) (values : List Argument) : Option (Except BindError Text) :=
  match code.expansion? with
  | some expansion =>
    if values.length = expansion.arguments.length then
      some ((Template.mk expansion.segments).bind values)
    else none
  | none => none

/-! ## Reading what was written -/

@[simp] theorem isWord_word (s other : String) : isWord s (word other) = (other == s) := by
  rw [word, isWord, Bool.eq_iff_iff, beq_iff_eq, beq_iff_eq, String.toList_inj]

theorem after?_words (words : List String) (rest : List Code) :
    after? words (words.map word ++ rest) = some rest := by
  induction words with
  | nil => rfl
  | cons s words ih => simp [after?, ih]

theorem after?_word (s : String) (rest : List Code) : after? [s] (word s :: rest) = some rest :=
  after?_words [s] rest

theorem afterPath?_path (names : List String) (rest : List Code) :
    afterPath? names (path names ++ rest) = some rest := by
  have words : path names = (names.flatMap fun name => ["::", name]).map word := by
    simp [path, List.map_flatMap]
  rw [afterPath?, words, after?_words]

theorem items?_commaSeparated {α : Type} {item? : List Code → Option α} {write : α → List Code}
    (read : ∀ a, item? (write a) = some a)
    (present : ∀ a, write a ≠ []) (whole : ∀ a, ∀ code ∈ write a, isWord "," code = false)
    (written : List α) : items? item? (commaSeparated (written.map write)) = some written := by
  have split : ∀ first rest, (commaSeparated ((first :: rest).map write)).splitOnP (isWord ",") =
      (first :: rest).map write := by
    intro first rest
    induction rest generalizing first with
    | nil => exact List.splitOnP_eq_singleton (whole first)
    | cons second rest ih =>
      -- No item has a comma of its own, so the first comma is the one behind the first item.
      simp only [List.map_cons, commaSeparated] at ih ⊢
      rw [List.splitOnP_append_cons_of_forall_mem (whole first) _ (by simp), ih]
  have mapped : (written.map write).mapM item? = some written := by
    induction written with
    | nil => rfl
    | cons a rest ih => simp [read, ih]
  cases written with
  | nil => rfl
  | cons first rest =>
    have some_code : (commaSeparated ((first :: rest).map write)).isEmpty = false := by
      cases rest <;> simp [commaSeparated, present]
    rw [items?, some_code, split, mapped]
    rfl

theorem index?_indexLiteral (n : Nat) : (indexLiteral n).index? = some n := by
  have spelled : (s!"{n}usize").toList = Text.decimal n ++ "usize".toList := by
    simp [Text.decimal, toString]
  have all : ∀ c ∈ Text.decimal n, Text.isDigit c = true :=
    fun c member => Text.isDigit_of_mem_decimal member
  rw [indexLiteral, word, index?, spelled, List.takeWhile_append_of_pos all,
    List.dropWhile_append_of_pos all]
  simp [Text.isDigit, Text.decimal_ne_nil]

theorem afterPath?_other (scopes : List String) {name other : String} (differ : other ≠ name)
    (rest : List Code) :
    afterPath? (scopes ++ [name]) (path (scopes ++ [other]) ++ rest) = none := by
  have step : ∀ scope words code,
      afterPath? (scope :: words) (word "::" :: word scope :: code) = afterPath? words code := by
    intro scope words code
    simp [afterPath?, after?]
  induction scopes with
  | nil => simp [afterPath?, after?, path, differ]
  | cons scope scopes ih =>
    have cut : path (scope :: scopes ++ [other]) ++ rest =
        word "::" :: word scope :: (path (scopes ++ [other]) ++ rest) := rfl
    rw [cut, List.cons_append, step, ih]

theorem isWord_comma_call {names : List String} (named : "," ∉ names) (body : List Code) :
    ∀ code ∈ path names ++ [parenthesized body], isWord "," code = false := by
  intro code member
  rcases List.mem_append.mp member with within | last
  · obtain ⟨name, listed, spelled⟩ := List.mem_flatMap.mp within
    have differ : name ≠ "," := fun same => named (same ▸ listed)
    rcases List.mem_cons.mp spelled with rfl | spelled
    · decide
    · obtain rfl := List.mem_singleton.mp spelled
      simpa using differ
  · obtain rfl := List.mem_singleton.mp last
    rfl

end Code

namespace Expansion

open Code

theorem segment?_segmentCode (segment : Segment) : segment? (segmentCode segment) = some segment := by
  cases segment with
  | literal text =>
    rw [segmentCode, segment?, literalSegment?, afterPath?_path]
    simp only [Option.bind_eq_bind, Option.bind_some, afterPath?_path, stringLiteral,
      literal?_stringLiteral]
    rfl
  | placeholder index =>
    -- It is not read as a literal, so the other reading decides.
    have other : afterPath? ["strquery", "Segment", "Literal"]
        (segmentCode (.placeholder index)) = none :=
      afterPath?_other ["strquery", "Segment"] (by decide) _
    rw [segment?, literalSegment?, other, placeholderSegment?, segmentCode, afterPath?_path]
    simp [index?_indexLiteral]

theorem argument?_argumentCode (source : String) :
    argument? (argumentCode source) = some source := by
  rw [argument?, argumentCode, afterPath?_path]
  simp only [Option.bind_eq_bind, Option.bind_some, after?_word]
  exact congrArg some String.ofList_toList

theorem items?_segments (segments : List Segment) :
    items? segment? (commaSeparated (segments.map segmentCode)) = some segments := by
  apply items?_commaSeparated segment?_segmentCode
  · intro segment
    cases segment <;> simp [segmentCode]
  · intro segment
    cases segment with
    | literal text => exact isWord_comma_call (by decide) _
    | placeholder index => exact isWord_comma_call (by decide) _

theorem items?_arguments (sources : List String) :
    items? argument? (commaSeparated (sources.map argumentCode)) = some sources := by
  apply items?_commaSeparated argument?_argumentCode
  · intro source
    simp [argumentCode]
  · intro source
    exact isWord_comma_call (by decide) _

theorem templateStatement?_letCode (name : String) (segments : List Segment) (rest : List Code) :
    templateStatement? (letCode name []
      (path ["strquery", "Template", "from_segments"] ++
        [parenthesized (path ["std", "vec"] ++
          [word "!", bracketed (commaSeparated (segments.map segmentCode))])]) ++ rest) =
      some (name.toList, segments, rest) := by
  have written : ∀ made, letCode name []
      (path ["strquery", "Template", "from_segments"] ++ [parenthesized made]) ++ rest =
      word "let" :: token name.toList :: word "=" :: (path ["strquery", "Template", "from_segments"] ++
        parenthesized made :: word ";" :: rest) := by
    simp [letCode, word]
  rw [written, templateStatement?, after?_word]
  simp only [Option.bind_eq_bind, Option.bind_some, after?_word, afterPath?_path, items?_segments]

theorem argumentsStatement?_letCode (name : String) (sources : List String) (rest : List Code) :
    argumentsStatement? (letCode name
      [bracketed (path ["strquery", "BoundArgument"] ++
        [word ";", indexLiteral sources.length])]
      [bracketed (commaSeparated (sources.map argumentCode))] ++ rest) =
      some (name.toList, sources, rest) := by
  have written : ∀ type listed, letCode name [bracketed type] [bracketed listed] ++ rest =
      word "let" :: token name.toList :: word ":" :: bracketed type :: word "=" :: bracketed listed ::
        word ";" :: rest := by
    simp [letCode, word]
  rw [written, argumentsStatement?, after?_word]
  simp only [Option.bind_eq_bind, Option.bind_some, after?_word, afterPath?_path,
    index?_indexLiteral, items?_arguments]
  rfl

theorem expansion?_code (expansion : Expansion String) :
    expansion.code.expansion? = some expansion := by
  have called : call? (path ["strquery", "bind"] ++ [parenthesized
      [word "&", word "__strquery_template", word ",", word "&", word "__strquery_args"]]) =
      some ("__strquery_template".toList, "__strquery_args".toList) := by
    rw [call?, afterPath?_path]
    rfl
  rw [code, expansion?, List.append_assoc, List.append_assoc]
  -- Each statement is read from the front and leaves the code of the next.
  refine Option.bind_eq_some_iff.mpr ⟨_, templateStatement?_letCode _ _ _, ?_⟩
  refine Option.bind_eq_some_iff.mpr ⟨_, argumentsStatement?_letCode _ _ _, ?_⟩
  refine Option.bind_eq_some_iff.mpr ⟨_, called, ?_⟩
  exact if_pos ⟨by decide, rfl⟩

end Expansion

end QueryTemplate.Inline
