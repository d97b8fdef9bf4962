import QueryTemplate.Text

/-! Command lines: options by their long or short names, free words, and the words of a command.

What an option or free words were given is acted upon when the next option or other words are met,
or at the end; so an unknown word is noticed before a bad value in front of it.
-/

set_option autoImplicit false

namespace QueryTemplate.Command

/-- Why words are not taken as a command line, or what they ask for instead. -/
inductive Refusal where
  | unknownArgument
  | missingArgument
  | invalidValue
  | conflict
  | tooManyValues
  | badValue (reason : String)
  | versionAsked
  deriving DecidableEq, Repr

inductive Action (σ : Type) where
  | flag (set : σ → Except Refusal σ)
  | value (repeats : Bool) (take : σ → String → Except Refusal σ)

structure OptionRule (σ : Type) where
  long : String
  short : Option Char
  action : Action σ

/-- The options of a command, what it does with free words, and the words that end its line. -/
structure Grammar (σ : Type) where
  options : List (OptionRule σ)
  free : Option (σ → String → Except Refusal σ) := none
  commands : List String := []

namespace Line

variable {σ : Type}

inductive Pending (σ : Type) where
  | nothing
  | option (rule : OptionRule σ) (value : Option String)
  | free (words : List String)

structure State (σ : Type) where
  settings : σ
  seen : List String := []
  pending : Pending σ := .nothing

def State.gave (s : State σ) (name : String) : Bool := s.seen.contains name

def State.wantsValue (s : State σ) : Option (OptionRule σ) :=
  match s.pending with
  | .option rule none => some rule
  | _ => none

def note (s : State σ) (rule : OptionRule σ) (repeats : Bool) : Except Refusal (State σ) :=
  if s.seen.contains rule.long ∧ !repeats then .error .conflict
  else .ok { s with seen := rule.long :: s.seen }

def act (s : State σ) (rule : OptionRule σ) (value : Option String) : Except Refusal (State σ) :=
  match rule.action, value with
  | .flag set, _ => do
    let s ← note s rule false
    .ok { s with settings := ← set s.settings }
  | .value _ _, none => .error .invalidValue
  | .value repeats take, some value => do
    let s ← note s rule repeats
    .ok { s with settings := ← take s.settings value }

def actFree (grammar : Grammar σ) (settings : σ) : List String → Except Refusal σ
  | [] => .ok settings
  | word :: rest =>
    match grammar.free with
    | none => .error .unknownArgument
    | some take => do actFree grammar (← take settings word) rest

def settle (grammar : Grammar σ) (s : State σ) : Except Refusal (State σ) :=
  let cleared := { s with pending := .nothing }
  match s.pending with
  | .nothing => .ok s
  | .option rule value => act cleared rule value
  | .free words => do .ok { cleared with settings := ← actFree grammar s.settings words }

def takeOption (grammar : Grammar σ) (s : State σ) (rule : OptionRule σ) (attached : Option String) :
    Except Refusal (State σ) := do
  let s ← settle grammar s
  match rule.action, attached with
  | .value _ _, none => .ok { s with pending := .option rule none }
  | _, _ => act s rule attached

def takeLong (grammar : Grammar σ) (s : State σ) (name : Text) : Except Refusal (State σ) :=
  let long := String.ofList (name.takeWhile (· ≠ '='))
  let attached := match name.dropWhile (· ≠ '=') with
    | [] => none
    | _ :: value => some (String.ofList value)
  match grammar.options.find? (·.long == long) with
  | none => .error .unknownArgument
  | some rule =>
    match rule.action, attached with
    | .flag _, some _ => .error .tooManyValues
    | _, _ => takeOption grammar s rule attached

/-- Take short names that stand together. All that follows one that takes a value is its value. -/
def takeShort (grammar : Grammar σ) (s : State σ) : Text → Except Refusal (State σ)
  | [] => .ok s
  | c :: rest =>
    match grammar.options.find? (·.short == some c) with
    | none => .error .unknownArgument
    | some rule =>
      match rule.action with
      | .flag _ => do takeShort grammar (← takeOption grammar s rule none) rest
      | .value _ _ =>
        takeOption grammar s rule <|
          match rest with
          | [] => none
          | '=' :: value => some (String.ofList value)
          | value => some (String.ofList value)

def takeFree (grammar : Grammar σ) (s : State σ) (word : String) : Except Refusal (State σ) :=
  match grammar.free, s.pending with
  | none, _ => .error .unknownArgument
  | some _, .free words => .ok { s with pending := .free (words ++ [word]) }
  | some _, _ => do
    let s ← settle grammar s
    .ok { s with pending := .free [word] }

/-- Take words up to the end or to the word of a command, which is given with the words after it. -/
def take (grammar : Grammar σ) (s : State σ) :
    List String → Except Refusal (State σ × Option (String × List String))
  | [] => .ok (s, none)
  | word :: rest =>
    if s.wantsValue.isNone ∧ grammar.commands.contains word then .ok (s, some (word, rest))
    else match word.toList with
      | ['-', '-'] => do .ok (← rest.foldlM (takeFree grammar) s, none)
      | '-' :: '-' :: name => do take grammar (← takeLong grammar s name) rest
      | '-' :: c :: names => do take grammar (← takeShort grammar s (c :: names)) rest
      | _ =>
        match s.wantsValue with
        | some rule => take grammar { s with pending := .option rule (some word) } rest
        | none => do take grammar (← takeFree grammar s word) rest

/-- The state that words lead to, and the command that ends them. -/
def run (grammar : Grammar σ) (settings : σ) (words : List String) :
    Except Refusal (State σ × Option (String × List String)) := do
  let (s, command) ← take grammar { settings } words
  .ok (← settle grammar s, command)

def read (grammar : Grammar σ) (settings : σ) (words : List String) :
    Except Refusal (σ × Option (String × List String)) :=
  (run grammar settings words).map fun (s, command) => (s.settings, command)

end Line

end QueryTemplate.Command
