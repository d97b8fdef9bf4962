import Mathlib.Data.List.Forall2
import QueryTemplate.Command.Program

/-! Command lines that are written for a request.

An option is written with its value behind an equals sign, so the value may be any text, and free
words stand behind two dashes. What such a line is read as is what it was written for.
-/

set_option autoImplicit false

namespace QueryTemplate

/-! ## Words with a separator -/

section

variable {c : Char} {front : Text}

theorem takeWhile_append_separator (free : c ∉ front) (rest : Text) :
    (front ++ c :: rest).takeWhile (· ≠ c) = front := by
  rw [List.takeWhile_append_of_pos fun _ member => decide_eq_true (ne_of_mem_of_not_mem member free)]
  simp

theorem dropWhile_append_separator (free : c ∉ front) (rest : Text) :
    (front ++ c :: rest).dropWhile (· ≠ c) = c :: rest := by
  rw [List.dropWhile_append_of_pos fun _ member => decide_eq_true (ne_of_mem_of_not_mem member free)]
  simp

end

/-- The word for an argument: its kind, an equals sign and the raw text as it is. -/
def Argument.word (kind : Kind) (raw : Text) : String := kind.name ++ "=" ++ String.ofList raw

theorem Argument.ofWord_append {name : Text} (free : '=' ∉ name) (raw : Text) :
    ofWord (name ++ '=' :: raw) =
      match Kind.ofAlias? (String.ofList name) with
      | none => .error (.unknownKind (String.ofList name))
      | some kind => (Value.ofWord kind raw).map (⟨kind, ·⟩) := by
  have nameEnds := takeWhile_append_separator free raw
  have rawStarts := dropWhile_append_separator free raw
  cases known : Kind.ofAlias? (String.ofList name) <;> simp only [ofWord, rawStarts, nameEnds, known]

theorem Argument.ofWord_word (kind : Kind) (raw : Text) :
    ofWord (word kind raw).toList = (Value.ofWord kind raw).map (⟨kind, ·⟩) := by
  have plain : '=' ∉ kind.name.toList := by
    rcases kind with element | element <;> cases element <;> decide
  have written : (word kind raw).toList = kind.name.toList ++ '=' :: raw := by simp [word]
  rw [written, ofWord_append plain, String.ofList_toList, Kind.ofAlias?_name]

namespace Command

namespace Line

variable {σ : Type} {grammar : Grammar σ} {s : State σ} {name value : String} {repeats : Bool}
  {set : σ → String → Except Refusal σ} {settings : σ}

/-! ## Options with their values -/

def optionWord (name value : String) : String := "--" ++ name ++ "=" ++ value

theorem toList_optionWord (name value : String) :
    (optionWord name value).toList = '-' :: '-' :: (name.toList ++ '=' :: value.toList) := by
  simp [optionWord]

/-- The grammar of a command has an option of that name, and it takes a value. -/
structure ValueOption (grammar : Grammar σ) (name : String) (repeats : Bool)
    (set : σ → String → Except Refusal σ) : Prop where
  noCommands : grammar.commands = []
  plain : '=' ∉ name.toList
  found : ∃ rule, grammar.options.find? (·.long == name) = some rule ∧
    rule.action = .value repeats set

theorem act_value {rule : OptionRule σ} (action : rule.action = .value repeats set)
    (fresh : repeats = true ∨ rule.long ∉ s.seen) (taken : set s.settings value = .ok settings) :
    act s rule (some value) = .ok { s with settings, seen := rule.long :: s.seen } := by
  have noted : note s rule repeats = .ok { s with seen := rule.long :: s.seen } := by
    rw [note, if_neg]
    rintro ⟨seen, once⟩
    rcases fresh with again | unseen
    · simp [again] at once
    · exact unseen (by simpa using seen)
  simp [act, action, noted, taken, Bind.bind, Except.bind]

theorem takeLong_value (option : ValueOption grammar name repeats set)
    (settled : s.pending = .nothing) (fresh : repeats = true ∨ name ∉ s.seen)
    (taken : set s.settings value = .ok settings) :
    takeLong grammar s (name.toList ++ '=' :: value.toList) =
      .ok { s with settings, seen := name :: s.seen } := by
  obtain ⟨rule, found, action⟩ := option.found
  obtain rfl : rule.long = name := by simpa using List.find?_some found
  have acted := act_value action fresh taken
  simp only [takeLong, dropWhile_append_separator option.plain,
    takeWhile_append_separator option.plain, String.ofList_toList, found, takeOption, settle,
    settled, action, acted, Bind.bind, Except.bind]

theorem take_optionWord (option : ValueOption grammar name repeats set)
    (settled : s.pending = .nothing) (fresh : repeats = true ∨ name ∉ s.seen)
    (taken : set s.settings value = .ok settings) (rest : List String) :
    take grammar s (optionWord name value :: rest) =
      take grammar { s with settings, seen := name :: s.seen } rest := by
  have long := takeLong_value option settled fresh taken
  rw [take, if_neg (by simp [option.noCommands]), toList_optionWord]
  -- A word that starts with two dashes and goes on is a long name.
  split
  next same => simp at same
  next same =>
    obtain rfl : name.toList ++ '=' :: value.toList = _ := by simpa using same
    rw [long]
    rfl
  next long same =>
    cases same
    exact (long rfl).elim
  next long _ => exact (long _ rfl).elim

theorem take_optionWords (option : ValueOption grammar name true set)
    (settled : s.pending = .nothing) {values : List String}
    (taken : values.foldlM set s.settings = .ok settings) :
    ∃ seen, take grammar s (values.map (optionWord name)) =
      .ok ({ s with settings, seen }, none) := by
  induction values generalizing s with
  | nil =>
    obtain rfl := Except.ok.inj taken
    exact ⟨s.seen, rfl⟩
  | cons value values ih =>
    cases first : set s.settings value with
    | error refusal => simp [first, Bind.bind, Except.bind] at taken
    | ok reached =>
      have later : values.foldlM set reached = .ok settings := by
        simpa [first, Bind.bind, Except.bind] using taken
      obtain ⟨seen, rest⟩ :=
        ih (s := { s with settings := reached, seen := name :: s.seen }) settled later
      exact ⟨seen, (take_optionWord option settled (.inl rfl) first _).trans rest⟩

/-! ## Free words -/

theorem actFree_eq_foldlM (free : grammar.free = some set) (settings : σ) (words : List String) :
    actFree grammar settings words = words.foldlM set settings := by
  induction words generalizing settings with
  | nil => rfl
  | cons word words ih => simp only [actFree, free, List.foldlM_cons, ih]

theorem foldlM_takeFree (free : grammar.free = some set) (front words : List String) :
    words.foldlM (takeFree grammar) { s with pending := .free front } =
      .ok { s with pending := .free (front ++ words) } := by
  induction words generalizing front with
  | nil => simp [pure, Except.pure]
  | cons word words ih =>
    have first : takeFree grammar { s with pending := .free front } word =
        .ok { s with pending := .free (front ++ [word]) } := by simp [takeFree, free]
    rw [List.foldlM_cons, first]
    simpa [Bind.bind, Except.bind] using ih (front ++ [word])

/-- Behind two dashes all words are free. They are acted upon at the end. -/
theorem take_freeWords (noCommands : grammar.commands = []) (free : grammar.free = some set)
    (settled : s.pending = .nothing) {words : List String}
    (taken : words.foldlM set s.settings = .ok settings) :
    ∃ last, take grammar s ("--" :: words) = .ok (last, none) ∧
      settle grammar last = .ok { s with settings } := by
  have front : take grammar s ("--" :: words) =
      (words.foldlM (takeFree grammar) s).map (·, none) := by
    rw [take, if_neg (by simp [noCommands])]
    cases words.foldlM (takeFree grammar) s <;> rfl
  cases words with
  | nil =>
    obtain rfl := Except.ok.inj taken
    have idle : settle grammar s = .ok s := by simp [settle, settled]
    exact ⟨s, front, idle⟩
  | cons word words =>
    -- The first free word settles what came before, which is nothing; the others join it.
    have first : takeFree grammar s word = .ok { s with pending := .free [word] } := by
      simp [takeFree, free, settled, settle, Bind.bind, Except.bind]
    refine ⟨{ s with pending := .free (word :: words) }, ?_, ?_⟩
    · have later := foldlM_takeFree (s := s) free [word] words
      rw [front, List.foldlM_cons, first]
      simp only [Bind.bind, Except.bind, later]
      rfl
    · simp [settle, actFree_eq_foldlM free, taken, settled, Bind.bind, Except.bind]

end Line

/-! ## The lines of the commands -/

def bindLine (template : Text) (words : List String) : List String :=
  "bind" :: Line.optionWord "template" (String.ofList template) ::
    words.map (Line.optionWord "arg")

def invokeLine (path name : String) (raws : List Text) : List String :=
  "invoke" :: Line.optionWord "repository" path :: Line.optionWord "method" name :: "--" ::
    raws.map String.ofList

namespace BindOptions

def setTemplate (given : Given) (word : String) : Except Refusal Given :=
  .ok { given with template := some word }

def addArgument (given : Given) (word : String) : Except Refusal Given :=
  match Argument.ofWord word.toList with
  | .error e => .error (.badValue e.message)
  | .ok argument => .ok { given with arguments := given.arguments ++ [argument] }

theorem setTemplate_eq (given : Given) (template : Text) :
    setTemplate given (String.ofList template) =
      .ok { given with template := some (String.ofList template) } := rfl

theorem templateOption :
    Line.ValueOption grammar.withEverywhere "template" false setTemplate :=
  ⟨rfl, by decide, _, rfl, rfl⟩

theorem argumentOption : Line.ValueOption grammar.withEverywhere "arg" true addArgument :=
  ⟨rfl, by decide, _, rfl, rfl⟩

theorem foldlM_addArgument {words : List String} {arguments : List Argument}
    (read : List.Forall₂ (fun word argument => Argument.ofWord word.toList = .ok argument)
      words arguments) (given : Given) :
    words.foldlM addArgument given =
      .ok { given with arguments := given.arguments ++ arguments } := by
  induction read generalizing given with
  | nil => simp [pure, Except.pure]
  | cons first _ ih =>
    rw [List.foldlM_cons]
    simp [addArgument, first, Bind.bind, Except.bind, ih]

end BindOptions

theorem Line.read_of_take {σ : Type} {grammar : Grammar σ} {settings : σ} {words : List String}
    {s last : State σ} {command : Option (String × List String)}
    (taken : take grammar { settings } words = .ok (s, command)) (settled : settle grammar s = .ok last) :
    read grammar settings words = .ok (last.settings, command) := by
  simp only [read, run, taken, settled, Bind.bind, Except.bind, Except.map]

namespace Request

variable {command : String}

/-- A command at the front leaves the reading of the words behind it to its own grammar. -/
theorem run_command (known : command ∈ frontGrammar.commands) (rest : List String) :
    Line.run frontGrammar () (command :: rest) = .ok (⟨(), [], .nothing⟩, some (command, rest)) := by
  simp only [frontGrammar, List.mem_cons, List.not_mem_nil, or_false] at known
  rcases known with rfl | rfl | rfl <;> rfl

theorem ofWords_command (known : command ∈ frontGrammar.commands) (rest : List String) :
    ofWords (command :: rest) = (Invocation.ofCommand false command rest).map Invocation.request := by
  simp only [ofWords, Invocation.ofWords, run_command known, Bind.bind, Except.bind]
  rfl

theorem map_ofRest {σ : Type} (grammar : Grammar σ) (settings : σ) (f : σ → Except Refusal Request)
    (verbose : Bool) (rest : List String) :
    (Invocation.ofRest grammar settings f verbose rest).map Invocation.request =
      Line.read grammar.withEverywhere settings rest >>= fun given => f given.1 := by
  unfold Invocation.ofRest Line.read
  cases Line.run grammar.withEverywhere settings rest with
  | error refusal => rfl
  | ok result =>
    change Except.map Invocation.request (f result.1.settings >>= _) = f result.1.settings
    cases f result.1.settings <;> rfl

end Request

theorem read_bindLine (template : Text) {words : List String} {arguments : List Argument}
    (read : List.Forall₂ (fun word argument => Argument.ofWord word.toList = .ok argument)
      words arguments) :
    Line.read BindOptions.grammar.withEverywhere {} (bindLine template words).tail =
      .ok ({ template := some (String.ofList template), arguments }, none) := by
  have first := Line.take_optionWord (s := ⟨{}, [], .nothing⟩)
    BindOptions.templateOption rfl (.inr (by simp)) (BindOptions.setTemplate_eq _ template)
    (words.map (Line.optionWord "arg"))
  obtain ⟨seen, rest⟩ := Line.take_optionWords
    (s := ⟨{ template := some (String.ofList template) }, ["template"], .nothing⟩)
    BindOptions.argumentOption rfl (BindOptions.foldlM_addArgument read _)
  exact Line.read_of_take (first.trans rest) rfl

theorem ofWords_bindLine (template : Text) {words : List String} {arguments : List Argument}
    (read : List.Forall₂ (fun word argument => Argument.ofWord word.toList = .ok argument)
      words arguments) :
    Request.ofWords (bindLine template words) = .ok (.bind ⟨template, arguments, false⟩) := by
  have behind := read_bindLine template read
  rw [bindLine, List.tail_cons] at behind
  rw [bindLine, Request.ofWords_command (by decide), Invocation.ofCommand, Request.map_ofRest, behind]
  simp [Bind.bind, Except.bind, Except.map, BindOptions.ofGiven]

namespace InvokeOptions

def setRepository (given : Given) (word : String) : Except Refusal Given := do
  .ok { given with repository := some (← pathWord word) }

def setMethod (given : Given) (word : String) : Except Refusal Given :=
  .ok { given with method := some word }

theorem setMethod_eq (given : Given) (name : String) :
    setMethod given name = .ok { given with method := some name } := rfl

def addValue (given : Given) (word : String) : Except Refusal Given :=
  .ok { given with values := given.values ++ [word.toList] }

theorem repositoryOption :
    Line.ValueOption grammar.withEverywhere "repository" false setRepository :=
  ⟨rfl, by decide, _, rfl, rfl⟩

theorem methodOption : Line.ValueOption grammar.withEverywhere "method" false setMethod :=
  ⟨rfl, by decide, _, rfl, rfl⟩

theorem free_eq : grammar.withEverywhere.free = some addValue := rfl

theorem foldlM_addValue (raws : List Text) (given : Given) :
    (raws.map String.ofList).foldlM addValue given =
      .ok { given with values := given.values ++ raws } := by
  induction raws generalizing given with
  | nil => simp [pure, Except.pure]
  | cons raw raws ih =>
    rw [List.map_cons, List.foldlM_cons]
    simp [addValue, Bind.bind, Except.bind, ih]

end InvokeOptions

theorem read_invokeLine {path : String} (given : path ≠ "") (name : String) (raws : List Text) :
    Line.read InvokeOptions.grammar.withEverywhere {} (invokeLine path name raws).tail =
      .ok ({ repository := some path, method := some name, values := raws }, none) := by
  have kept : InvokeOptions.setRepository {} path = .ok { repository := some path } := by
    simp [InvokeOptions.setRepository, pathWord, given, Bind.bind, Except.bind]
  have first := Line.take_optionWord (s := ⟨{}, [], .nothing⟩)
    InvokeOptions.repositoryOption rfl (.inr (by simp)) kept
    (Line.optionWord "method" name :: "--" :: raws.map String.ofList)
  have second := Line.take_optionWord (s := ⟨{ repository := some path }, ["repository"], .nothing⟩)
    InvokeOptions.methodOption rfl (.inr (by simp)) (InvokeOptions.setMethod_eq _ name)
    ("--" :: raws.map String.ofList)
  obtain ⟨last, rest, ended⟩ := Line.take_freeWords
    (s := ⟨{ repository := some path, method := some name }, ["method", "repository"], .nothing⟩)
    rfl InvokeOptions.free_eq rfl (InvokeOptions.foldlM_addValue raws _)
  exact Line.read_of_take (first.trans (second.trans rest)) ended

theorem ofWords_invokeLine {path : String} (given : path ≠ "") (name : String)
    (raws : List Text) :
    Request.ofWords (invokeLine path name raws) = .ok (.invoke ⟨path, name, raws, false⟩) := by
  have behind := read_invokeLine given name raws
  rw [invokeLine, List.tail_cons] at behind
  rw [invokeLine, Request.ofWords_command (by decide), Invocation.ofCommand, Request.map_ofRest,
    behind]
  simp [Bind.bind, Except.bind, Except.map, InvokeOptions.ofGiven]

end Command

end QueryTemplate
